import Duvm.Backend.Deposits
import Duvm.Daemon.Contents

/-!
# The engine over a memory server

The operations of an engine whose only backend is a TCP backend, whatever happens
to the connection and to the server. An operation gives up pages, and a store
makes a new deposit on the server; it does so only over a stream which is open
already.
-/

namespace Duvm.Daemon

open Function (update)

variable {id : UInt8} {count : ℕ} {deposits : UInt64 → Option Deposit}

/-- The pages of the policy are among those of another one, under the same handles. -/
def PolicyEngine.Within (next policy : PolicyEngine) : Prop :=
  ∀ offset entry, next.lookup offset = some entry →
    ∃ old, policy.lookup offset = some old ∧ old.handle = entry.handle

namespace PolicyEngine.Within

theorem refl (policy : PolicyEngine) : policy.Within policy :=
  fun _ entry listed => ⟨entry, listed, rfl⟩

theorem trans {first second third : PolicyEngine} (later : third.Within second)
    (earlier : second.Within first) : third.Within first := by
  intro offset entry listed
  rcases later offset entry listed with ⟨middle, wasListed, same⟩
  rcases earlier offset middle wasListed with ⟨old, found, sameOld⟩
  exact ⟨old, found, sameOld.trans same⟩

theorem untracked {policy next : PolicyEngine} (within : next.Within policy) {offset : UInt64}
    (absent : policy.lookup offset = none) : next.lookup offset = none := by
  rw [Option.eq_none_iff_forall_ne_some]
  intro entry listed
  rcases within offset entry listed with ⟨old, found, _⟩
  simp [absent] at found

end PolicyEngine.Within

namespace PolicyEngine

theorem within_of_retouched {policy next : PolicyEngine} (retouched : policy.Retouched next) :
    next.Within policy := by
  cases retouched with
  | untouched => exact .refl policy
  | replaced offset entry updated listed sameHandle _ =>
      intro other found isFound
      rcases HashMap.new_or_old listed isFound with ⟨rfl, rfl⟩ | ⟨_, wasListed⟩
      · exact ⟨entry, listed, sameHandle.symm⟩
      · exact ⟨found, wasListed, rfl⟩

theorem lookup_recordLoad {policy : PolicyEngine} {offset : UInt64} {entry : PageMeta}
    (listed : policy.lookup offset = some entry) (env : CallEnv) :
    (policy.recordLoad env offset).lookup offset = some
      { entry with
        accessCount := saturatingSucc entry.accessCount
        lastAccess := env.now } := by
  have found : policy.pages.lookup offset = some entry := listed
  rw [recordLoad, found]
  simp only [lookup]
  rw [HashMap.lookup_replace_eq_ite (HashMap.mem_of_lookup_eq_some found), if_pos rfl]

end PolicyEngine

namespace Engine

variable {engine next : Engine TcpLink} {link : TcpLink}

theorem within_untrack (engine : Engine TcpLink) (offset : UInt64) :
    (engine.untrack offset).policy.Within engine.policy := by
  intro other entry listed
  exact ⟨entry, (listed_of_untrack listed).2, rfl⟩

/-- The only backend is a TCP backend, and its server keeps the deposits. -/
def Serves (engine : Engine TcpLink) (id : UInt8) (count : ℕ)
    (deposits : UInt64 → Option Deposit) : Prop :=
  ∃ link, engine.backends = AList.singleton id link ∧ link.Sound count deposits

theorem lookup_of_only (only : engine.backends = AList.singleton id link) :
    engine.backends.lookup id = some link := by
  rw [only, ← HashMap.mem_entries_iff, AList.singleton_entries]
  exact List.mem_singleton_self _

theorem eq_of_only {other : UInt8} {found : TcpLink}
    (only : engine.backends = AList.singleton id link)
    (isFound : engine.backends.lookup other = some found) : other = id ∧ found = link := by
  rw [only, ← HashMap.mem_entries_iff, AList.singleton_entries, List.mem_singleton] at isFound
  cases isFound
  exact ⟨rfl, rfl⟩

theorem setBackend_of_only (only : engine.backends = AList.singleton id link) (after : TcpLink) :
    (engine.setBackend id after).backends = AList.singleton id after := by
  rw [setBackend, only]
  apply AList.ext
  simp [AList.replace, List.kreplace]

theorem serves_setBackend {after : TcpLink} (only : engine.backends = AList.singleton id link)
    (sound : after.Sound count deposits) : (engine.setBackend id after).Serves id count deposits :=
  ⟨after, setBackend_of_only only after, sound⟩

theorem Serves.found {other : UInt8} (serves : engine.Serves id count deposits)
    (isFound : engine.backends.lookup other = some link) :
    other = id ∧ engine.backends = AList.singleton id link ∧ link.Sound count deposits := by
  rcases serves with ⟨served, only, sound⟩
  rcases eq_of_only only isFound with ⟨rfl, rfl⟩
  exact ⟨rfl, only, sound⟩

theorem Serves.freeOn (serves : engine.Serves id count deposits) (other : UInt8)
    (handle : PageHandle) :
    (engine.freeOn other handle).2.Serves id count deposits ∧
      (engine.freeOn other handle).2.policy = engine.policy := by
  unfold Engine.freeOn
  cases found : engine.backends.lookup other with
  | none => exact ⟨serves, rfl⟩
  | some link =>
      rcases serves.found found with ⟨rfl, only, sound⟩
      exact ⟨serves_setBackend only (sound.freePage handle), rfl⟩

/-- What is known when the engine has at most given up pages. -/
structure Narrows (engine next : Engine TcpLink) (id : UInt8) (count : ℕ)
    (deposits : UInt64 → Option Deposit) : Prop where
  serves : next.Serves id count deposits
  within : next.policy.Within engine.policy

theorem Narrows.trans {middle : Engine TcpLink} (later : middle.Narrows next id count deposits)
    (earlier : engine.Narrows middle id count deposits) : engine.Narrows next id count deposits :=
  ⟨later.serves, later.within.trans earlier.within⟩

theorem Serves.narrows (serves : engine.Serves id count deposits) :
    engine.Narrows engine id count deposits :=
  ⟨serves, .refl engine.policy⟩

/-- A page is given up and its offset on the server is freed, or not. -/
theorem Serves.drop (serves : engine.Serves id count deposits) (offset : UInt64) (other : UInt8)
    (handle : PageHandle) :
    engine.Narrows ((engine.untrack offset).freeOn other handle).2 id count deposits ∧
      ((engine.untrack offset).freeOn other handle).2.policy.lookup offset = none := by
  have untracked : (engine.untrack offset).Serves id count deposits := serves
  rcases untracked.freeOn other handle with ⟨stillServes, samePolicy⟩
  refine ⟨⟨stillServes, ?_⟩, ?_⟩
  · rw [samePolicy]
    exact within_untrack engine offset
  · rw [samePolicy, lookup_untrack, if_pos rfl]

theorem Serves.releaseOld (serves : engine.Serves id count deposits) (offset : UInt64) :
    engine.Narrows (engine.releaseOld offset) id count deposits ∧
      (engine.releaseOld offset).policy.lookup offset = none := by
  unfold Engine.releaseOld
  cases listed : engine.policy.lookup offset with
  | none => exact ⟨serves.narrows, listed⟩
  | some old => exact serves.drop offset old.backendId old.handle

theorem Serves.tryEvictFrom (serves : engine.Serves id count deposits) (env : CallEnv)
    (ids : List UInt8) :
    engine.Narrows (Engine.tryEvictFrom env ids engine).2 id count deposits := by
  induction ids generalizing engine with
  | nil => exact serves.narrows
  | cons other rest ih =>
      simp only [Engine.tryEvictFrom]
      cases engine.policy.findEvictionCandidate env other with
      | none => exact ih serves
      | some victim =>
          simp only
          cases engine.policy.lookup victim with
          | none => exact ih serves
          | some entry =>
              have dropped := (serves.drop victim other entry.handle).1
              simp only
              revert dropped
              cases (engine.untrack victim).freeOn other entry.handle with
              | mk freed after =>
                  intro dropped
                  rcases freed with _ | _ | _
                  · exact (ih dropped.serves).trans dropped
                  · exact (ih dropped.serves).trans dropped
                  · exact ⟨dropped.serves, dropped.within⟩

theorem Serves.chooseTier (serves : engine.Serves id count deposits) (env : CallEnv) :
    engine.Narrows (engine.chooseTier env).2 id count deposits := by
  unfold Engine.chooseTier
  split
  · exact serves.narrows
  · have evicting : engine.Narrows (engine.tryEvictOne env).2 id count deposits :=
      serves.tryEvictFrom env engine.backends.keys
    revert evicting
    cases engine.tryEvictOne env with
    | mk victim after =>
        intro evicting
        cases victim with
        | none => exact ⟨evicting.serves, evicting.within⟩
        | some offset =>
            simp only
            split
            · exact evicting
            · exact ⟨evicting.serves, evicting.within⟩

/-- The only backend is a candidate if it is connected and has room. -/
theorem candidates_of_only (only : engine.backends = AList.singleton id link) (tier : Tier) :
    engine.tierBackendCandidates tier = if hasRoom link then [id] else [] := by
  simp only [tierBackendCandidates, only, AList.singleton_entries]
  by_cases room : hasRoom link = true
  · by_cases inTier : DuvmBackend.tier link = tier
    · simp [room, inTier]
    · simp [room, inTier]
  · simp [room]

/-- The ways in which a store can end. -/
inductive Settled (engine : Engine TcpLink) (id : UInt8) (count : ℕ) (offset : UInt64)
    (data : PageBuffer) (deposits : UInt64 → Option Deposit) :
    Outcome PageHandle → Engine TcpLink → Prop
  | stored {handle : PageHandle} {next : Engine TcpLink} (entry : PageMeta)
      (serves : next.Serves id count (update deposits offset (some ⟨handle.offset, data⟩)))
      (isHandle : entry.handle = handle)
      (policy : ∀ other, next.policy.lookup other =
        if other = offset then some entry else engine.policy.lookup other) :
      Settled engine id count offset data deposits (.ok handle) next
  | refused {error : DuvmError} {next : Engine TcpLink} (attempt : Option Deposit)
      (serves : next.Serves id count (update deposits offset attempt))
      (policy : next.policy = engine.policy) :
      Settled engine id count offset data deposits (.err error) next
  | panicked {next : Engine TcpLink} : Settled engine id count offset data deposits .panic next

theorem Serves.storeOn (only : engine.backends = AList.singleton id link)
    (sound : link.Sound count deposits) (isOpen : link.backend.conn.stream.isSome) (env : CallEnv)
    (offset : UInt64) (data : PageBuffer) (tier : Tier) :
    engine.Settled id count offset data deposits
      (Engine.storeOn env offset data tier [id] none engine).1
      (Engine.storeOn env offset data tier [id] none engine).2 := by
  have found := lookup_of_only only
  rcases sound.allocPage isOpen offset data with ⟨given, refused⟩
  simp only [Engine.storeOn, found]
  cases allocated : DuvmBackend.allocPage link with
  | mk outcome issued =>
      have isIssued : link.allocPage = (outcome, issued) := allocated
      rw [isIssued] at given refused
      cases outcome with
      | panic => exact .panicked
      | err error =>
          refine .refused (deposits offset) ?_ rfl
          rw [Function.update_eq_self]
          exact serves_setBackend only (refused error rfl)
      | ok handle =>
          rcases given handle rfl with ⟨stillOpen, deposited⟩
          have stores := deposited.storePage stillOpen
            (Function.update_self offset (some ⟨handle.offset, data⟩) deposits)
          simp only
          cases stored : DuvmBackend.storePage issued handle data with
          | mk result after =>
              have isAfter : issued.storePage handle data = (result, after) := stored
              rw [isAfter] at stores
              cases result with
              | error error =>
                  exact .refused _ (serves_setBackend only (stores.freePage handle)) rfl
              | ok done =>
                  refine .stored ⟨handle, id, tier, 0, env.now, .empty⟩
                    (serves_setBackend only stores) rfl ?_
                  intro other
                  exact lookup_recordStore _ _ _ _ _ _ _

/-- A store leaves its page under its offset, or nothing; other pages may be given up. -/
theorem Serves.storePage (serves : engine.Serves id count deposits) (env : CallEnv)
    (offset : UInt64) (data : PageBuffer) :
    ∃ roomy : Engine TcpLink, roomy.policy.Within engine.policy ∧
      roomy.policy.lookup offset = none ∧
      roomy.Settled id count offset data deposits (Engine.storePage env engine offset data).1
        (Engine.storePage env engine offset data).2 := by
  rcases serves.releaseOld offset with ⟨released, untracked⟩
  have chosen := released.serves.chooseTier env
  unfold Engine.storePage
  revert chosen
  cases (engine.releaseOld offset).chooseTier env with
  | mk tier roomy =>
      intro chosen
      refine ⟨roomy, chosen.within.trans released.within, chosen.within.untracked untracked, ?_⟩
      cases tier with
      | error error =>
          refine .refused (deposits offset) ?_ rfl
          rw [Function.update_eq_self]
          exact chosen.serves
      | ok tier =>
          rcases chosen.serves with ⟨link, only, sound⟩
          simp only
          rw [candidates_of_only only]
          split
          · next room =>
              have isOpen : link.backend.conn.stream.isSome := (Bool.and_eq_true_iff.mp room).1
              exact Serves.storeOn only sound isOpen env offset data tier
          · refine .refused (deposits offset) ?_ rfl
            rw [Function.update_eq_self]
            exact chosen.serves

theorem Serves.invalidatePage (serves : engine.Serves id count deposits) (offset : UInt64) :
    engine.Narrows (Engine.invalidatePage engine offset).2 id count deposits ∧
      (Engine.invalidatePage engine offset).2.policy.lookup offset = none := by
  unfold Engine.invalidatePage
  cases listed : engine.policy.lookup offset with
  | none => exact ⟨serves.narrows, listed⟩
  | some entry =>
      rcases serves.drop offset entry.backendId entry.handle with ⟨dropped, untracked⟩
      simp only
      revert dropped untracked
      cases (engine.untrack offset).freeOn entry.backendId entry.handle with
      | mk freed after =>
          intro dropped untracked
          rcases freed with _ | _ | _
          · exact ⟨⟨dropped.serves, dropped.within⟩, untracked⟩
          · exact ⟨dropped, untracked⟩
          · exact ⟨⟨dropped.serves, dropped.within⟩, untracked⟩

/-- No offset of the server has been given out twice. -/
def FewOffsets (engine : Engine TcpLink) : Prop :=
  ∀ other link, engine.backends.lookup other = some link → link.server.granted ≤ 2 ^ 64

theorem Serves.counted (serves : engine.Serves id count deposits) (few : engine.FewOffsets) :
    count ≤ 2 ^ 64 := by
  rcases serves with ⟨link, only, sound⟩
  exact sound.counted.trans (few id link (lookup_of_only only))

/-- The number of offsets given out so far. -/
theorem Serves.recount (serves : engine.Serves id count deposits) :
    ∃ granted, engine.Serves id granted deposits ∧ (granted ≤ 2 ^ 64 → engine.FewOffsets) := by
  rcases serves with ⟨link, only, sound⟩
  refine ⟨link.server.granted, ⟨link, only, Nat.le_refl _, sound.keeps⟩, ?_⟩
  intro few other found isFound
  rw [(eq_of_only only isFound).2]
  exact few

theorem Serves.loadPage (serves : engine.Serves id count deposits) (env : CallEnv)
    (offset : UInt64) :
    engine.Narrows (Engine.loadPage env engine offset).2 id count deposits ∧
      ∀ data, (Engine.loadPage env engine offset).1 = .ok data →
        (Engine.loadPage env engine offset).2.FewOffsets →
          ∃ entry, engine.policy.lookup offset = some entry ∧
            ∀ deposit, deposits offset = some deposit → deposit.slot = entry.handle.offset →
              data = deposit.data := by
  unfold Engine.loadPage
  cases listed : engine.policy.lookup offset with
  | none => exact ⟨⟨serves, .refl _⟩, by simp⟩
  | some entry =>
      simp only
      cases found : engine.backends.lookup entry.backendId with
      | none => exact ⟨⟨serves, .refl _⟩, by simp⟩
      | some link =>
          rcases serves.found found with ⟨isId, only, sound⟩
          rw [isId]
          have loads := sound.loadPage entry.handle
          simp only
          cases loaded : DuvmBackend.loadPage link entry.handle with
          | mk result after =>
              have isAfter : link.loadPage entry.handle = (result, after) := loaded
              rw [isAfter] at loads
              have stillServes := serves_setBackend only loads
              cases result with
              | error error => exact ⟨⟨stillServes, .refl _⟩, by simp⟩
              | ok page =>
                  refine ⟨⟨stillServes, ?_⟩, ?_⟩
                  · apply PolicyEngine.within_of_retouched
                    exact PolicyEngine.retouched_recordLoad _ env offset
                  · intro data isPage few
                    refine ⟨entry, rfl, fun deposit deposited isSlot => ?_⟩
                    rw [← Except.ok.inj isPage]
                    apply sound.data_of_loadPage _ (congrArg Prod.fst isAfter) deposited isSlot
                    rw [isAfter]
                    exact few id after (lookup_of_only (setBackend_of_only only after))

section Undisturbed

variable {issued after : TcpLink} {offset : UInt64} {data : PageBuffer} {handle : PageHandle}
  {entry : PageMeta}

theorem selectTier_of_only (only : engine.backends = AList.singleton id link)
    (room : hasRoom link = true) :
    PolicyEngine.selectTier engine.backendCapacities = some .rdma := by
  have isRoom : (BackendCapacity.mk id (DuvmBackend.tier link) (DuvmBackend.capacity link).1
      (DuvmBackend.capacity link).2 (DuvmBackend.isHealthy link)).hasCapacity = true := room
  have isTier : DuvmBackend.tier link = .rdma := rfl
  simp only [backendCapacities, only, AList.singleton_entries, List.map_cons, List.map_nil,
    PolicyEngine.selectTier, PolicyEngine.tierPreference, List.find?_cons, List.filter_cons,
    List.filter_nil, isRoom]
  rw [isTier]
  rfl

theorem chooseTier_of_only (only : engine.backends = AList.singleton id link)
    (room : hasRoom link = true) (env : CallEnv) : engine.chooseTier env = (.ok .rdma, engine) := by
  rw [Engine.chooseTier, selectTier_of_only only room]

/-- A new page, when the server answers. -/
theorem storePage_of_answered (only : engine.backends = AList.singleton id link)
    (room : hasRoom link = true) (untracked : engine.policy.lookup offset = none)
    (allocated : link.allocPage = (.ok handle, issued))
    (stored : issued.storePage handle data = (.ok (), after)) (env : CallEnv) :
    engine.storePage env offset data = (.ok handle,
      { backends := AList.singleton id after
        policy := engine.policy.recordStore env offset handle id .rdma
        stats := engine.stats.stored }) := by
  have isAllocated : DuvmBackend.allocPage link = (.ok handle, issued) := allocated
  have isStored : DuvmBackend.storePage issued handle data = (.ok (), after) := stored
  rw [Engine.storePage, releaseOld_of_untracked untracked, chooseTier_of_only only room]
  simp only [candidates_of_only only, room, if_true, Engine.storeOn, lookup_of_only only,
    isAllocated, isStored]
  rw [← setBackend_of_only only after]
  rfl

/-- A new page, when the server cannot be asked for an offset. -/
theorem storePage_of_alloc_failed {error : DuvmError}
    (only : engine.backends = AList.singleton id link) (room : hasRoom link = true)
    (untracked : engine.policy.lookup offset = none)
    (failed : link.allocPage = (.err error, after)) (env : CallEnv) (data : PageBuffer) :
    engine.storePage env offset data = (.err error,
      { backends := AList.singleton id after
        policy := engine.policy
        stats := engine.stats.storeFailed }) := by
  have isFailed : DuvmBackend.allocPage link = (.err error, after) := failed
  rw [Engine.storePage, releaseOld_of_untracked untracked, chooseTier_of_only only room]
  simp only [candidates_of_only only, room, if_true, Engine.storeOn, lookup_of_only only,
    isFailed]
  rw [← setBackend_of_only only after]
  rfl

theorem loadPage_of_answered (only : engine.backends = AList.singleton id link)
    (listed : engine.policy.lookup offset = some entry) (onBackend : entry.backendId = id)
    (loaded : link.loadPage entry.handle = (.ok data, after)) (env : CallEnv) :
    engine.loadPage env offset = (.ok data,
      { backends := AList.singleton id after
        policy := engine.policy.recordLoad env offset
        stats := engine.stats.loaded }) := by
  have isLoaded : DuvmBackend.loadPage link entry.handle = (.ok data, after) := loaded
  have found : engine.backends.lookup entry.backendId = some link := by
    rw [onBackend, lookup_of_only only]
  rw [Engine.loadPage]
  simp only [listed, found, isLoaded, onBackend]
  rw [← setBackend_of_only only after]
  rfl

theorem invalidatePage_of_answered (only : engine.backends = AList.singleton id link)
    (listed : engine.policy.lookup offset = some entry) (onBackend : entry.backendId = id)
    (freed : link.freePage entry.handle = (.ok (), after)) :
    engine.invalidatePage offset = (.ok (),
      { backends := AList.singleton id after
        policy := (engine.policy.remove offset).2
        stats := engine.stats.invalidated }) := by
  have isFreed : DuvmBackend.freePage link entry.handle = (.ok (), after) := freed
  have found : (engine.untrack offset).backends.lookup entry.backendId = some link := by
    rw [onBackend]
    exact lookup_of_only only
  rw [Engine.invalidatePage]
  simp only [listed, Engine.freeOn, found, isFreed, onBackend]
  rw [← setBackend_of_only only after]
  rfl

end Undisturbed

end Engine

end Duvm.Daemon
