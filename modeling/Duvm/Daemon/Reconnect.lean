import Duvm.Backend.Reserves
import Duvm.Daemon.Accounting

/-!
# Coming back to a peer

An engine whose only backend is a TCP backend, after any history, and a memory
server which from now on accepts connections and answers every request. The
backend connects again only when it is used, and the engine uses it for a new page
only when it is connected. So a store succeeds without loss exactly when the
backend has a stream to the server already, or gets one by freeing the old page of
the offset, and the server gives out an offset which fits into a handle.
-/

namespace Duvm

open Memserver (PageStore)
open Tcp (allocReply storeReply loadReply freeReply)

/-- The server is there, accepts a connection and answers. -/
structure Fate.Calm (fate : Fate) : Prop where
  undisturbed : fate.incidents = []
  accepts : fate.attempt = .connected
  answers : fate.delivery = .answered

namespace TcpLink

open TcpBackend (circuitBreakerOpen)

/-- From now on the server accepts connections, answers every request and has room; the backend
has room as well, and its circuit breaker lets it try. -/
structure Welcoming (link : TcpLink) : Prop where
  calm : ∀ fate ∈ link.fates, fate.Calm
  lasting : 3 ≤ link.fates.length
  retries : circuitBreakerOpen link.backend.conn link.fate.now = false
  hasRoom : link.backend.pagesUsed < link.backend.maxPages
  serverRoom : link.server.store.used < link.server.store.maxPages

theorem Welcoming.fates {link : TcpLink} (welcoming : link.Welcoming) :
    ∃ first second third rest, link.fates = first :: second :: third :: rest ∧
      first.Calm ∧ second.Calm ∧ third.Calm := by
  have calm := welcoming.calm
  have lasting := welcoming.lasting
  rcases fates : link.fates with _ | ⟨first, _ | ⟨second, _ | ⟨third, rest⟩⟩⟩
  case cons.cons.cons =>
    simp only [fates, List.forall_mem_cons] at calm
    exact ⟨first, second, third, rest, rfl, calm.1, calm.2.1, calm.2.2.1⟩
  all_goals simp [fates] at lasting

/-- The stream was opened in the lifetime of the server which is running. -/
def Live (link : TcpLink) : Prop := link.backend.conn.stream = some link.server.lifetime

/-- A server which holds fewer pages than it may accepts another one. -/
theorem store_accepts {store : PageStore} (room : store.len < store.maxPages.toNat)
    (offset : UInt64) (data : PageBuffer) : (store.store offset data).1 = true := by
  rw [PageStore.store, if_neg (by omega)]

/-- A server which counts the pages it holds, and fewer than it may hold, accepts the page for
which it gives out an offset. -/
theorem accepts_after_alloc {server : MemoryServer} (counts : server.Reserve 0)
    (room : server.store.used < server.store.maxPages) (offset : UInt64) (data : PageBuffer) :
    ((server.serve .alloc).store.store offset data).1 = true := by
  have below := UInt64.lt_iff_toNat_lt.mp room
  unfold MemoryServer.Reserve at counts
  apply store_accepts
  simp only [MemoryServer.serve, Tcp.Operation.after]
  rw [PageStore.allocOffset_of_lt room]
  change server.store.len < server.store.maxPages.toNat
  omega

section Calm

variable {link : TcpLink} {fate : Fate} {rest : List Fate}

/-- The server gives out its next offset. -/
theorem withStream_alloc_of_live (live : link.Live) (next : link.fates = fate :: rest)
    (calm : fate.Calm) (serverRoom : link.server.store.used < link.server.store.maxPages) :
    ∃ after, (link.setUsed (link.backend.pagesUsed + 1)).withStream .alloc allocReply =
        (.ok link.server.store.nextOffset, after) ∧ after.Live ∧ after.fates = rest ∧
      after.server = link.server.serve .alloc := by
  have given : allocReply link.server.store = .ok link.server.store.nextOffset := by
    rw [allocReply, PageStore.allocOffset_of_lt serverRoom]
  have answered : (link.setUsed (link.backend.pagesUsed + 1)).withStream .alloc allocReply = _ :=
    withStream_answered link.backend.conn next calm.undisturbed calm.answers
      (obtainStream_open _ _ _ live) given
  exact ⟨_, answered, live, rfl, rfl⟩

theorem allocPage_of_live (live : link.Live) (next : link.fates = fate :: rest)
    (calm : fate.Calm) (hasRoom : link.backend.pagesUsed < link.backend.maxPages)
    (serverRoom : link.server.store.used < link.server.store.maxPages)
    (offsets : link.server.store.nextOffset.toNat < PageHandle.offsetLimit) :
    ∃ handle issued, link.allocPage = (.ok handle, issued) ∧ issued.Live ∧
      issued.fates = rest ∧ issued.server = link.server.serve .alloc := by
  rcases withStream_alloc_of_live live next calm serverRoom with ⟨after, answered, kept⟩
  have fits : (PageHandle.new after.backend.backendId link.server.store.nextOffset).isSome :=
    PageHandle.new_isSome.mpr offsets
  rcases Option.isSome_iff_exists.mp fits with ⟨handle, created⟩
  exact ⟨handle, after, allocPage_of_answered hasRoom answered created, kept⟩

variable {handle : PageHandle}

/-- An offset which does not fit into a handle is a panic. -/
theorem offsets_of_allocated (live : link.Live) (next : link.fates = fate :: rest)
    (calm : fate.Calm) (hasRoom : link.backend.pagesUsed < link.backend.maxPages)
    (serverRoom : link.server.store.used < link.server.store.maxPages) {issued : TcpLink}
    (allocated : link.allocPage = (.ok handle, issued)) :
    link.server.store.nextOffset.toNat < PageHandle.offsetLimit := by
  rcases withStream_alloc_of_live live next calm serverRoom with ⟨after, answered, -⟩
  rw [allocPage, if_neg (UInt64.not_le.mpr hasRoom), answered] at allocated
  by_contra spent
  have panics : PageHandle.new after.backend.backendId link.server.store.nextOffset = none := by
    rw [← Option.not_isSome_iff_eq_none, PageHandle.new_isSome]
    exact spent
  simp [panics] at allocated

theorem storePage_of_live (live : link.Live) (next : link.fates = fate :: rest) (calm : fate.Calm)
    {data : PageBuffer} (accepts : (link.server.store.store handle.offset data).1 = true) :
    ∃ after, link.storePage handle data = (.ok (), after) := by
  have replied : storeReply link.server.store handle data = .ok () := by
    rw [storeReply, if_pos accepts]
  exact ⟨_, withStream_answered link.backend.conn next calm.undisturbed calm.answers
    (obtainStream_open _ _ _ live) replied⟩

/-- A page which the server has is freed, over the stream there is or a new one. -/
theorem freePage_of_calm (next : link.fates = fate :: rest) (calm : fate.Calm)
    (retries : TcpBackend.circuitBreakerOpen link.backend.conn fate.now = false)
    (obtainable : link.backend.conn.stream = none ∨ link.Live)
    (present : handle.offset ∈ link.server.store.pages) :
    ∃ after, link.freePage handle = (.ok (), after) ∧ after.Live ∧ after.fates = rest ∧
      after.server = link.server.serve (.free handle) ∧
      after.backend.maxPages = link.backend.maxPages := by
  have replied : freeReply link.server.store handle = .ok () := by
    rw [freeReply, PageStore.free_of_mem present, if_pos rfl]
  rcases obtainable with closed | live
  · have obtained := obtainStream_reconnected link.backend.addr link.server.lifetime closed retries
      calm.accepts
    have answered : link.withStream (.free handle) (freeReply · handle) = _ :=
      withStream_answered _ next calm.undisturbed calm.answers obtained replied
    exact ⟨_, freePage_of_answered answered, rfl, rfl, rfl, rfl⟩
  · have answered : link.withStream (.free handle) (freeReply · handle) = _ :=
      withStream_answered link.backend.conn next calm.undisturbed calm.answers
        (obtainStream_open _ _ _ live) replied
    exact ⟨_, freePage_of_answered answered, live, rfl, rfl, rfl⟩

/-- A stream to a server which is no more is of no use. -/
theorem allocPage_of_dead {opened : ℕ} (isOpen : link.backend.conn.stream = some opened)
    (dead : opened ≠ link.upcoming.lifetime)
    (hasRoom : link.backend.pagesUsed < link.backend.maxPages) :
    ∃ error after, link.allocPage = (.err error, after) := by
  rcases withStream_spec (link.setUsed (link.backend.pagesUsed + 1)) .alloc allocReply with
    ⟨-, kept, stays⟩
  cases result : (link.setUsed (link.backend.pagesUsed + 1)).withStream .alloc allocReply with
  | mk answer after =>
      rw [result] at kept stays
      cases answer with
      | error error => exact ⟨error, _, allocPage_of_failed hasRoom result⟩
      | ok offset =>
          rcases stays offset rfl with ⟨later, isLater⟩
          rcases kept later isLater with ⟨same, live, -⟩
          exact absurd ((same opened isOpen).trans live) dead

/-- Freeing a page leaves a stream only if the server had the page, and it was not asked over a
stream to an earlier one. -/
theorem of_stream_freePage {opened : ℕ}
    (isOpen : (link.freePage handle).2.backend.conn.stream = some opened) :
    handle.offset ∈ link.upcoming.store.pages ∧
      ∀ earlier, link.backend.conn.stream = some earlier → earlier = link.upcoming.lifetime := by
  have sameStream : (link.freePage handle).2.backend.conn.stream =
      (link.withStream (.free handle) (freeReply · handle)).2.backend.conn.stream := by
    unfold freePage
    split
    · next result => rw [result]
    · next result => rw [result]; rfl
  rcases withStream_spec link (.free handle) (freeReply · handle) with ⟨-, kept, -⟩
  rcases kept opened (sameStream.symm.trans isOpen) with ⟨same, live, answer, replied⟩
  constructor
  · by_contra absent
    rw [freeReply, PageStore.free_of_notMem absent, if_neg Bool.false_ne_true] at replied
    cases replied
  · intro earlier wasOpen
    exact (same earlier wasOpen).trans live

end Calm

end TcpLink

namespace Daemon

namespace Engine

variable {engine next : Engine TcpLink} {link : TcpLink} {id : UInt8} {offset : UInt64}
  {data : PageBuffer} {env : CallEnv}

/-- The store succeeds, and every other page is tracked as before. -/
def StoresKeeping (engine : Engine TcpLink) (env : CallEnv) (offset : UInt64)
    (data : PageBuffer) : Prop :=
  ∃ handle next, engine.storePage env offset data = (.ok handle, next) ∧
    ∀ other entry, other ≠ offset → engine.policy.lookup other = some entry →
      next.policy.lookup other = some entry

/-- The old page of an offset is given up first. -/
theorem storePage_releaseOld (engine : Engine TcpLink) (env : CallEnv) (offset : UInt64)
    (data : PageBuffer) :
    (engine.releaseOld offset).storePage env offset data = engine.storePage env offset data := by
  unfold Engine.storePage
  rw [releaseOld_of_untracked (untracked_releaseOld engine offset)]

theorem storesKeeping_releaseOld :
    (engine.releaseOld offset).StoresKeeping env offset data ↔
      engine.StoresKeeping env offset data := by
  unfold StoresKeeping
  rw [storePage_releaseOld]
  have same : ∀ other, other ≠ offset →
      (engine.releaseOld offset).policy.lookup other = engine.policy.lookup other :=
    fun _ => lookup_releaseOld_of_ne engine
  constructor
  · rintro ⟨handle, next, stored, keeps⟩
    refine ⟨handle, next, stored, fun other entry distinct listed => ?_⟩
    exact keeps other entry distinct ((same other distinct).trans listed)
  · rintro ⟨handle, next, stored, keeps⟩
    refine ⟨handle, next, stored, fun other entry distinct listed => ?_⟩
    exact keeps other entry distinct ((same other distinct).symm.trans listed)

theorem hasRoom_iff : hasRoom link = true ↔
    link.backend.conn.stream.isSome ∧ link.backend.pagesUsed < link.backend.maxPages := by
  rw [hasRoom, Bool.and_eq_true_iff, decide_eq_true_iff]
  rfl

/-- A new page over a live stream. -/
theorem storesKeeping_of_live (only : engine.backends = AList.singleton id link)
    (untracked : engine.policy.lookup offset = none) (live : link.Live) (counts : link.Counts)
    {first second : Fate} {rest : List Fate} (fates : link.fates = first :: second :: rest)
    (calm : first.Calm) (calmAfter : second.Calm)
    (room : link.backend.pagesUsed < link.backend.maxPages)
    (serverRoom : link.server.store.used < link.server.store.maxPages)
    (offsets : link.server.store.nextOffset.toNat < PageHandle.offsetLimit) :
    engine.StoresKeeping env offset data := by
  have hasRoom : Engine.hasRoom link = true := hasRoom_iff.mpr ⟨by rw [live]; rfl, room⟩
  rcases TcpLink.allocPage_of_live live fates calm room serverRoom offsets with
    ⟨handle, issued, allocated, stillLive, later, served⟩
  have accepts : (issued.server.store.store handle.offset data).1 = true := by
    rw [served]
    exact TcpLink.accepts_after_alloc counts serverRoom _ _
  rcases TcpLink.storePage_of_live stillLive later calmAfter accepts with ⟨after, stored⟩
  refine ⟨handle, _, storePage_of_answered only hasRoom untracked allocated stored env, ?_⟩
  intro other entry distinct listed
  change (engine.policy.recordStore env offset handle id .rdma).lookup other = some entry
  rw [lookup_recordStore, if_neg distinct]
  exact listed

theorem tryEvictOne_of_only (only : engine.backends = AList.singleton id link) {victim : UInt64}
    (evicted : engine.tryEvictOne env = (some victim, next)) :
    (∃ entry, engine.policy.lookup victim = some entry) ∧ next.policy.lookup victim = none := by
  have keys : engine.backends.keys = [id] := by
    rw [only]
    rfl
  simp only [tryEvictOne, keys, tryEvictFrom] at evicted
  cases selected : engine.policy.findEvictionCandidate env id with
  | none =>
      rw [selected] at evicted
      cases evicted
  | some offset =>
      rcases PolicyEngine.leastRecent_of_candidate selected with ⟨entry, least⟩
      have samePolicy := policy_freeOn (engine.untrack offset) id entry.handle
      simp only [selected, least.listed] at evicted
      split at evicted
      · next after freed =>
          rw [freed] at samePolicy
          rcases evicted with ⟨⟩
          refine ⟨⟨entry, least.listed⟩, ?_⟩
          change after.policy.lookup _ = none
          rw [samePolicy, lookup_untrack, if_pos rfl]
      · cases evicted

theorem upcoming_of_calm {fate : Fate} {rest : List Fate} (next : link.fates = fate :: rest)
    (calm : fate.Calm) : link.upcoming = link.server := by
  simp [TcpLink.upcoming, TcpLink.fate, next, calm.undisturbed]

/-- Without a stream another page is given up to make room, or the store fails. -/
theorem selectTier_of_closed (only : engine.backends = AList.singleton id link)
    (closed : link.backend.conn.stream = none) :
    PolicyEngine.selectTier engine.backendCapacities = none := by
  apply PolicyEngine.selectTier_eq_none_iff.mpr
  intro capacity listed
  simp only [backendCapacities, only, AList.singleton_entries, List.map_cons, List.map_nil,
    List.mem_singleton] at listed
  subst listed
  have unhealthy : DuvmBackend.isHealthy link = false := by
    change link.backend.conn.stream.isSome = false
    rw [closed]
    rfl
  simp [BackendCapacity.hasCapacity, unhealthy]

theorem not_storesKeeping_of_closed (only : engine.backends = AList.singleton id link)
    (untracked : engine.policy.lookup offset = none)
    (closed : link.backend.conn.stream = none) : ¬ engine.StoresKeeping env offset data := by
  rintro ⟨handle, next, stored, keeps⟩
  simp only [Engine.storePage, releaseOld_of_untracked untracked, Engine.chooseTier,
    selectTier_of_closed only closed] at stored
  cases evicting : engine.tryEvictOne env with
  | mk evicted after =>
      rw [evicting] at stored
      cases evicted with
      | none => cases stored
      | some victim =>
          rcases tryEvictOne_of_only only evicting with ⟨⟨entry, listed⟩, gone⟩
          have distinct : victim ≠ offset := by
            rintro rfl
            rw [untracked] at listed
            cases listed
          have moved : Moves none engine (engine.tryEvictOne env).2 :=
            moves_tryEvictFrom env _ engine
          rw [evicting] at moved
          have stillUntracked : after.policy.lookup offset = none :=
            untracked_of_moves (fun _ => (Option.some_ne_none _).symm) untracked moved
          cases chosen : PolicyEngine.selectTier after.backendCapacities with
          | none =>
              simp only [chosen] at stored
              cases stored
          | some tier =>
              simp only [chosen] at stored
              have lost := untracked_of_storeOn stillUntracked gone distinct stored
              rw [keeps victim entry distinct listed] at lost
              cases lost

/-- A store over an open stream needs an offset from the server. -/
theorem StoresKeeping.allocated (keeping : engine.StoresKeeping env offset data)
    (only : engine.backends = AList.singleton id link)
    (untracked : engine.policy.lookup offset = none) {opened : ℕ}
    (isOpen : link.backend.conn.stream = some opened)
    (room : link.backend.pagesUsed < link.backend.maxPages) :
    ∃ handle issued, link.allocPage = (.ok handle, issued) := by
  have hasRoom : Engine.hasRoom link = true := hasRoom_iff.mpr ⟨by rw [isOpen]; rfl, room⟩
  rcases keeping with ⟨handle, next, stored, -⟩
  rw [Engine.storePage, releaseOld_of_untracked untracked, chooseTier_of_only only hasRoom]
    at stored
  simp only [candidates_of_only only, hasRoom, if_true, Engine.storeOn, lookup_of_only only]
    at stored
  cases allocated : DuvmBackend.allocPage link with
  | mk outcome issued =>
      rw [allocated] at stored
      cases outcome with
      | ok handle => exact ⟨handle, issued, allocated⟩
      | err error => cases stored
      | panic => cases stored

/-- A store over an open stream needs the server to be the one it was opened to, and an offset
which fits into a handle. -/
theorem StoresKeeping.live (keeping : engine.StoresKeeping env offset data)
    (only : engine.backends = AList.singleton id link)
    (untracked : engine.policy.lookup offset = none) {opened : ℕ}
    (isOpen : link.backend.conn.stream = some opened) {fate : Fate} {rest : List Fate}
    (fates : link.fates = fate :: rest) (calm : fate.Calm)
    (room : link.backend.pagesUsed < link.backend.maxPages)
    (serverRoom : link.server.store.used < link.server.store.maxPages) :
    link.server.store.nextOffset.toNat < PageHandle.offsetLimit ∧ link.Live := by
  rcases keeping.allocated only untracked isOpen room with ⟨handle, issued, allocated⟩
  have live : link.Live := by
    by_contra dead
    have other : opened ≠ link.upcoming.lifetime := by
      rw [upcoming_of_calm fates calm]
      rintro rfl
      exact dead isOpen
    rcases TcpLink.allocPage_of_dead isOpen other room with ⟨error, after, failed⟩
    cases failed.symm.trans allocated
  exact ⟨TcpLink.offsets_of_allocated live fates calm room serverRoom allocated, live⟩

/-- The only backend is a TCP backend whose server counts the pages it holds, and the policy
knows of no other backend. -/
structure Attached (engine : Engine TcpLink) (id : UInt8) : Prop where
  backend : ∃ link, engine.backends = AList.singleton id link ∧ link.Counts
  entries : ∀ offset entry, engine.policy.lookup offset = some entry → entry.backendId = id

theorem Attached.change (attached : engine.Attached id) {other : UInt8} {after : TcpLink}
    (found : engine.backends.lookup other = some link)
    (backends : next.backends = engine.backends.replace other after)
    (counts : link.Counts → after.Counts)
    (entries : ∀ offset entry, next.policy.lookup offset = some entry → entry.backendId = id) :
    next.Attached id := by
  rcases attached.backend with ⟨held, only, heldCounts⟩
  rcases eq_of_only only found with ⟨rfl, rfl⟩
  exact ⟨⟨after, backends.trans (setBackend_of_only only after), counts heldCounts⟩, entries⟩

theorem Attached.move {request : Option (UInt64 × PageBuffer)} (attached : engine.Attached id)
    (move : Move request engine next) : next.Attached id := by
  have entries := attached.entries
  cases move with
  | counted stats => exact ⟨attached.backend, entries⟩
  | dropped offset entry listed =>
      have fewer : ∀ other found, (engine.untrack offset).policy.lookup other = some found →
          found.backendId = id := by
        intro other found isFound
        exact entries other found (listed_of_untrack isFound).2
      unfold freeOn
      split
      · exact ⟨attached.backend, fewer⟩
      · next link found =>
          exact attached.change found rfl (fun counts => counts.freePage entry.handle) fewer
  | retouched offset entry updated listed sameHandle sameBackend =>
      refine ⟨attached.backend, ?_⟩
      intro other found isFound
      rcases listed_of_retouched listed sameHandle sameBackend isFound with
        ⟨old, wasListed, -, onSame⟩
      exact onSame ▸ entries other old wasListed
  | asked offset entry backend listed found =>
      exact attached.change found rfl (fun counts => counts.loadPage entry.handle) entries
  | denied other backend after error found refused =>
      exact attached.change found rfl (fun counts => counts.denied refused) entries
  | returned other backend issued failed handle data error found allocated refused =>
      refine attached.change found rfl ?_ entries
      intro counts
      have stored := (counts.allocated allocated).storePage handle data
      rw [show issued.storePage handle data = _ from refused] at stored
      exact stored.freePage handle
  | placed env tier other backend issued after handle offset data _ untracked found allocated
      stored =>
      refine attached.change found rfl ?_ ?_
      · intro counts
        have kept := (counts.allocated allocated).storePage handle data
        rw [show issued.storePage handle data = _ from stored] at kept
        exact kept
      · intro tracked entry isFound
        rw [lookup_recordStore] at isFound
        split at isFound
        · rcases attached.backend with ⟨link, only, -⟩
          rw [← Option.some.inj isFound]
          exact (eq_of_only only found).1
        · exact entries tracked entry isFound

/-- The next offset of the server fits into a handle, and the stream is live, or the old page of
the offset can be freed over the stream there is or a new one. -/
def Ready (engine : Engine TcpLink) (link : TcpLink) (offset : UInt64) : Prop :=
  link.server.store.nextOffset.toNat < PageHandle.offsetLimit ∧
  match engine.policy.lookup offset with
  | none => link.Live
  | some entry => entry.handle.offset ∈ link.server.store.pages ∧
      (link.backend.conn.stream = none ∨ link.Live)

theorem ready_of_untracked (untracked : engine.policy.lookup offset = none) :
    engine.Ready link offset ↔
      link.server.store.nextOffset.toNat < PageHandle.offsetLimit ∧ link.Live := by
  simp only [Ready, untracked]

theorem ready_of_listed {entry : PageMeta} (listed : engine.policy.lookup offset = some entry) :
    engine.Ready link offset ↔ link.server.store.nextOffset.toNat < PageHandle.offsetLimit ∧
      entry.handle.offset ∈ link.server.store.pages ∧
      (link.backend.conn.stream = none ∨ link.Live) := by
  simp only [Ready, listed]

theorem backends_releaseOld (only : engine.backends = AList.singleton id link) {entry : PageMeta}
    (listed : engine.policy.lookup offset = some entry) (onBackend : entry.backendId = id) :
    (engine.releaseOld offset).backends = AList.singleton id (link.freePage entry.handle).2 := by
  subst onBackend
  have found : (engine.untrack offset).backends.lookup entry.backendId = some link :=
    lookup_of_only only
  simp only [Engine.releaseOld, listed, freeOn, found]
  exact setBackend_of_only only _

/-- A store without an old page to free. -/
theorem storesKeeping_iff_live (only : engine.backends = AList.singleton id link)
    (counts : link.Counts) (welcoming : link.Welcoming)
    (untracked : engine.policy.lookup offset = none) :
    engine.StoresKeeping env offset data ↔
      link.server.store.nextOffset.toNat < PageHandle.offsetLimit ∧ link.Live := by
  rcases welcoming.fates with ⟨first, second, third, rest, fates, firstCalm, secondCalm, -⟩
  constructor
  · intro keeping
    cases isOpen : link.backend.conn.stream with
    | none => exact absurd keeping (not_storesKeeping_of_closed only untracked isOpen)
    | some opened =>
        exact keeping.live only untracked isOpen fates firstCalm welcoming.hasRoom
          welcoming.serverRoom
  · rintro ⟨offsets, live⟩
    exact storesKeeping_of_live only untracked live counts fates firstCalm secondCalm
      welcoming.hasRoom welcoming.serverRoom offsets

/-- Once the server has freed a page, it has room and counts what it holds. -/
theorem room_after_free {server : MemoryServer} (counts : server.Reserve 0)
    (room : server.store.used < server.store.maxPages) {handle : PageHandle}
    (present : handle.offset ∈ server.store.pages) :
    (server.serve (.free handle)).store.used < (server.serve (.free handle)).store.maxPages ∧
      (server.serve (.free handle)).store.nextOffset = server.store.nextOffset := by
  have below := UInt64.lt_iff_toNat_lt.mp room
  have holds : 0 < server.store.len := HashMap.size_pos_of_mem present
  unfold MemoryServer.Reserve at counts
  have counted := PageStore.toNat_used_sub_one (by omega : 0 < server.store.used.toNat)
  simp only [MemoryServer.serve, Tcp.Operation.after, PageStore.free_of_mem present]
  refine ⟨UInt64.lt_iff_toNat_lt.mpr ?_, trivial⟩
  omega

/-- A store with an old page to free. -/
theorem storesKeeping_iff_freed (only : engine.backends = AList.singleton id link)
    (counts : link.Counts) (welcoming : link.Welcoming) {entry : PageMeta}
    (listed : engine.policy.lookup offset = some entry) (onBackend : entry.backendId = id)
    (used : 0 < link.backend.pagesUsed.toNat) :
    engine.StoresKeeping env offset data ↔
      link.server.store.nextOffset.toNat < PageHandle.offsetLimit ∧
      entry.handle.offset ∈ link.server.store.pages ∧
      (link.backend.conn.stream = none ∨ link.Live) := by
  rcases welcoming.fates with
    ⟨first, second, third, rest, fates, firstCalm, secondCalm, thirdCalm⟩
  have retries := welcoming.retries
  simp only [TcpLink.fate, fates, List.headD_cons] at retries
  have onlyFreed := backends_releaseOld only listed onBackend
  have untracked := untracked_releaseOld engine offset
  rw [← storesKeeping_releaseOld]
  -- once the old page is freed, the store is one of a new page over a live stream
  have ready : ∀ present : entry.handle.offset ∈ link.server.store.pages,
      (link.backend.conn.stream = none ∨ link.Live) →
      ((engine.releaseOld offset).StoresKeeping env offset data ↔
        link.server.store.nextOffset.toNat < PageHandle.offsetLimit) := by
    intro present obtainable
    rcases TcpLink.freePage_of_calm fates firstCalm retries obtainable present with
      ⟨after, freed, live, later, served, sameLimit⟩
    rcases room_after_free counts welcoming.serverRoom present with ⟨serverRoom, sameOffset⟩
    have counted := TcpLink.pagesUsed_of_freed used freed
    have countsAfter := counts.freePage entry.handle
    have below := UInt64.lt_iff_toNat_lt.mp welcoming.hasRoom
    rw [freed] at onlyFreed countsAfter
    have hasRoom : after.backend.pagesUsed < after.backend.maxPages := by
      rw [sameLimit]
      apply UInt64.lt_iff_toNat_lt.mpr
      omega
    rw [← served] at serverRoom sameOffset
    rw [← sameOffset]
    constructor
    · intro keeping
      exact (keeping.live onlyFreed untracked live later secondCalm hasRoom serverRoom).1
    · intro offsets
      exact storesKeeping_of_live onlyFreed untracked live countsAfter later secondCalm thirdCalm
        hasRoom serverRoom offsets
  constructor
  · intro keeping
    cases isOpen : (link.freePage entry.handle).2.backend.conn.stream with
    | none => exact absurd keeping (not_storesKeeping_of_closed onlyFreed untracked isOpen)
    | some opened =>
        rcases TcpLink.of_stream_freePage isOpen with ⟨present, live⟩
        rw [upcoming_of_calm fates firstCalm] at present live
        have obtainable : link.backend.conn.stream = none ∨ link.Live := by
          cases wasOpen : link.backend.conn.stream with
          | none => exact .inl rfl
          | some earlier => exact .inr (wasOpen.trans (congrArg some (live earlier wasOpen)))
        exact ⟨(ready present obtainable).mp keeping, present, obtainable⟩
  · rintro ⟨offsets, present, obtainable⟩
    exact (ready present obtainable).mpr offsets

end Engine

open Engine in
/-- In every state which a session with one TCP backend can reach, a store to a server which is
back succeeds without loss if and only if the engine is ready for it. -/
theorem storesKeeping_iff_ready {id : UInt8} {addr : String} {maxPages serverPages : UInt64}
    {fates : List Fate} {actions : List (CallEnv × Call)} {session : Session TcpLink}
    {link : TcpLink}
    (reached : Transition.run Session.step (.remote id addr maxPages serverPages fates) actions =
      some session)
    (found : session.engine.backends.lookup id = some link) (welcoming : link.Welcoming)
    (env : CallEnv) (offset : UInt64) (data : PageBuffer) :
    session.engine.StoresKeeping env offset data ↔ session.engine.Ready link offset := by
  have attached : session.engine.Attached id := by
    refine Session.invariant_of_run (Engine.Attached · id) ?_ ?_ reached
    · intro request current after attached move
      exact attached.move move
    · refine ⟨⟨_, rfl, Nat.zero_le _⟩, ?_⟩
      intro tracked entry listed
      cases listed
  have tallied := Session.tallied_of_run tally_counted (fun _ _ _ => Nat.zero_le _) reached
  rcases attached.backend with ⟨held, only, counts⟩
  rcases eq_of_only only found with ⟨-, rfl⟩
  cases listed : session.engine.policy.lookup offset with
  | none =>
      rw [ready_of_untracked listed]
      exact storesKeeping_iff_live only counts welcoming listed
  | some entry =>
      have onBackend := attached.entries offset entry listed
      have counted := tallied id link found
      rw [ready_of_listed listed]
      apply storesKeeping_iff_freed only counts welcoming listed onBackend
      exact Nat.lt_of_lt_of_le (PolicyEngine.pagesInBackend_pos listed onBackend) counted

def threeAnswers : List Fate := List.replicate 3 (calmly .answered)

theorem calm_of_threeAnswers : ∀ fate ∈ threeAnswers, fate.Calm := by
  intro fate isOne
  rw [List.eq_of_mem_replicate isOne]
  exact ⟨rfl, rfl, rfl⟩

/-- A page is stored and its load is lost with the connection. The next store of the page frees
the old one first, and so connects again. -/
theorem storesKeeping_after_lost_load :
    ∃ session, Transition.run Session.step
        (.remote 0 "server" 2 2
          (calmly .answered :: calmly .answered :: calmly .requestLost :: threeAnswers))
        ([.store 1 (.filled 1), .load 1].map quietly) = some session ∧
      session.engine.StoresKeeping ⟨0, .listed TrackedPage⟩ 1 (.filled 2) := by
  have ran : ∃ session link entry, Transition.run Session.step
      (.remote 0 "server" 2 2
        (calmly .answered :: calmly .answered :: calmly .requestLost :: threeAnswers))
      ([.store 1 (.filled 1), .load 1].map quietly) = some session ∧
      session.engine.backends.lookup 0 = some link ∧ link.fates = threeAnswers ∧
      link.backend.pagesUsed = 1 ∧ link.backend.maxPages = 2 ∧ link.server.store.used = 1 ∧
      link.server.store.maxPages = 2 ∧ link.server.store.nextOffset = 1 ∧
      TcpBackend.circuitBreakerOpen link.backend.conn link.fate.now = false ∧
      link.backend.conn.stream = none ∧
      session.engine.policy.lookup 1 = some entry ∧
      entry.handle.offset ∈ link.server.store.pages :=
    ⟨_, _, _, rfl, rfl, rfl, rfl, rfl, rfl, rfl, rfl, rfl, rfl, rfl, by decide⟩
  rcases ran with ⟨session, link, entry, reached, found, fates, used, most, serverUsed, serverMost,
    offsets, retries, closed, listed, present⟩
  have welcoming : link.Welcoming :=
    { calm := fates ▸ calm_of_threeAnswers
      lasting := by rw [fates]; decide
      retries := retries
      hasRoom := by rw [used, most]; decide
      serverRoom := by rw [serverUsed, serverMost]; decide }
  refine ⟨session, reached, ?_⟩
  rw [storesKeeping_iff_ready reached found welcoming]
  exact (Engine.ready_of_listed listed).mpr ⟨by rw [offsets]; decide, present, .inl closed⟩

/-- The first allocation is lost with the connection, and no page is tracked. No store is tried
again, though the server would accept it. -/
theorem store_refused_after_lost_alloc :
    ∃ session link, Transition.run Session.step
        (.remote 0 "server" 2 2 (calmly .requestLost :: threeAnswers))
        [quietly (.store 1 (.filled 1))] = some session ∧
      session.engine.backends.lookup 0 = some link ∧ link.Welcoming ∧
      (session.engine.storePage ⟨0, .listed TrackedPage⟩ 1 (.filled 1)).1 =
        .err .noEvictablePages :=
  ⟨_, _, rfl, rfl,
    { calm := calm_of_threeAnswers, lasting := by decide, retries := rfl, hasRoom := by decide
      serverRoom := by decide }, rfl⟩

end Daemon

end Duvm
