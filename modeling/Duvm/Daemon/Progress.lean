import Duvm.Daemon.Refinement
import Duvm.Daemon.Tiers

/-!
# Progress over local backends

An engine over memory and compression backends, none of which has no pages at all, and with
no page pinned. As long as handles are left, every store succeeds: if every backend is full,
some page can be given up, and the slot which it leaves is found by the second choice of a
tier, by the filter of the candidates and by the backend itself.

A store disturbs no other page than the one it gives up, and it gives up one only if every
backend is full.
-/

namespace Duvm.Daemon

open Function (update)

universe u

/-- The calls which store, load or invalidate a page. -/
def Call.isPageCall : Call → Bool
  | .store _ _ => true
  | .load _ => true
  | .invalidate _ => true
  | .setFlag _ _ => false
  | .clearFlag _ _ => false

namespace Engine

section Unpinned

variable {Backend : Type u} [DuvmBackend Backend] {engine : Engine Backend}

/-- No tracked page is pinned. -/
def Unpinned (engine : Engine Backend) : Prop :=
  ∀ offset entry, engine.policy.lookup offset = some entry →
    entry.flags.contains .PINNED = false

theorem Unpinned.releaseOld (unpinned : engine.Unpinned) (offset : UInt64) :
    (engine.releaseOld offset).Unpinned := by
  intro other entry listed
  by_cases same : other = offset
  · rw [same, untracked_releaseOld] at listed
    cases listed
  · rw [lookup_releaseOld_of_ne engine same] at listed
    exact unpinned other entry listed

theorem Unpinned.storePage (unpinned : engine.Unpinned) (env : CallEnv) (offset : UInt64)
    (data : PageBuffer) : (engine.storePage env offset data).2.Unpinned := by
  intro other entry listed
  by_cases same : other = offset
  · subst same
    rcases chosen_of_stored listed with ⟨tier, roomy, _, untracked, result⟩
    rw [result] at listed
    rw [(entry_of_storeOn untracked listed).2.2]
    rfl
  · exact unpinned other entry ((leftOrTaken_storePage env engine data same).listed listed)

theorem Unpinned.loadPage (unpinned : engine.Unpinned) (env : CallEnv) (offset : UInt64) :
    (engine.loadPage env offset).2.Unpinned := by
  have recorded : ∀ other entry,
      (engine.policy.recordLoad env offset).lookup other = some entry →
        entry.flags.contains .PINNED = false := by
    intro other entry listed
    unfold PolicyEngine.recordLoad at listed
    cases found : engine.policy.pages.lookup offset with
    | none =>
        rw [found] at listed
        exact unpinned other entry listed
    | some old =>
        rw [found] at listed
        rcases HashMap.new_or_old found listed with ⟨_, rfl⟩ | ⟨_, wasListed⟩
        · exact unpinned offset old found
        · exact unpinned other entry wasListed
  unfold Engine.loadPage
  split
  · exact unpinned
  · split
    · exact unpinned
    · split
      · exact unpinned
      · exact recorded

theorem Unpinned.invalidatePage (unpinned : engine.Unpinned) (offset : UInt64) :
    (engine.invalidatePage offset).2.Unpinned := by
  intro other entry listed
  rw [lookup_invalidatePage] at listed
  split at listed
  · cases listed
  · exact unpinned other entry listed

end Unpinned

variable {Backend : Type u} [LawfulBackend Backend] {engine next : Engine Backend}

/-- With no page pinned, a full engine with any pages at all has one to give up. -/
theorem Inv.exists_unpinned (inv : engine.Inv) (unpinned : engine.Unpinned) (full : engine.Full)
    (positive : 0 < engine.totalPages) :
    ∃ offset entry, engine.policy.lookup offset = some entry ∧
      entry.flags.contains .PINNED = false := by
  have used : 0 < HashMap.size engine.policy.pages := by
    rw [← inv.counted]
    by_contra none
    exact not_full_of_lt (by omega) full
  rcases List.exists_mem_of_length_pos used with ⟨offset, isKey⟩
  rcases HashMap.exists_lookup_of_mem (AList.mem_keys.mpr isKey) with ⟨entry, listed⟩
  exact ⟨offset, entry, listed, unpinned offset entry listed⟩

theorem Inv.loads_eq (inv : engine.Inv) (nextInv : next.Inv) {offset : UInt64}
    (samePolicy : next.policy.lookup offset = engine.policy.lookup offset)
    (sameContents : next.contents offset = engine.contents offset) (env : CallEnv) :
    (next.loadPage env offset).1 = (engine.loadPage env offset).1 := by
  cases kept : engine.contents offset with
  | some data =>
      rw [(inv.loadPage env offset).1 data kept,
        (nextInv.loadPage env offset).1 data (sameContents.trans kept)]
  | none =>
      have untracked : engine.policy.lookup offset = none := by
        cases listed : engine.policy.lookup offset with
        | none => rfl
        | some entry =>
            have isSome := (inv.contents_isSome_iff offset).mpr
              (HashMap.mem_of_lookup_eq_some listed)
            rw [kept] at isSome
            cases isSome
      rw [fst_loadPage, fst_loadPage, samePolicy, untracked]

/-- Every offset but the one stored and the one given up keeps its entry and its page. -/
structure Spared (engine next : Engine Backend) (stored : UInt64) (victim : Option UInt64) :
    Prop where
  entry : ∀ other, other ≠ stored → victim ≠ some other →
    next.policy.lookup other = engine.policy.lookup other
  loads : ∀ env other, other ≠ stored → victim ≠ some other →
    (next.loadPage env other).1 = (engine.loadPage env other).1

/-- What keeps its page has not been taken to make room. -/
theorem Inv.spared (inv : engine.Inv) (env : CallEnv) (offset : UInt64) (data : PageBuffer)
    {victim : Option UInt64} (nextInv : (engine.storePage env offset data).2.Inv)
    (contents : ∀ other, other ≠ offset → victim ≠ some other →
      (engine.storePage env offset data).2.contents other = engine.contents other) :
    engine.Spared (engine.storePage env offset data).2 offset victim := by
  have entry : ∀ other, other ≠ offset → victim ≠ some other →
      (engine.storePage env offset data).2.policy.lookup other = engine.policy.lookup other := by
    intro other different notVictim
    have same := contents other different notVictim
    cases leftOrTaken_storePage env engine data different with
    | left kept _ => exact kept
    | taken old listed _ gone =>
        have isSome := (inv.contents_isSome_iff other).mpr (HashMap.mem_of_lookup_eq_some listed)
        rw [← same, contents_eq_none gone] at isSome
        cases isSome
  exact ⟨entry, fun later other different notVictim =>
    inv.loads_eq nextInv (entry other different notVictim) (contents other different notVictim)
      later⟩

/-- A store with handles left, no page pinned, and some pages to store in. -/
structure Progress (engine : Engine Backend) (env : CallEnv) (offset : UInt64)
    (data : PageBuffer) (handle : PageHandle) (next : Engine Backend) : Prop where
  result : engine.storePage env offset data = (.ok handle, next)
  inv : next.Inv
  stored : next.contents offset = some data
  spared : engine.Spared next offset (engine.evicted env offset)
  full : engine.evicted env offset ≠ none → (engine.releaseOld offset).Full

theorem Inv.progress (inv : engine.Inv) (unpinned : engine.Unpinned)
    (positive : 0 < engine.totalPages) (unspent : engine.issuedPages < PageHandle.offsetLimit)
    (env : CallEnv) (offset : UInt64) (data : PageBuffer) :
    ∃ handle next, engine.Progress env offset data handle next := by
  have ended := inv.storePage env offset data
  have spared := @Inv.spared _ _ engine inv env offset data (engine.evicted env offset)
  generalize isVictim : engine.evicted env offset = victim at ended spared
  cases result : engine.storePage env offset data with
  | mk outcome next =>
      rw [result] at ended spared
      cases ended with
      | @placed handle _ room nextInv contents follows =>
          refine ⟨handle, next, result, nextInv, ?_, ?_, ?_⟩
          · rw [contents, Function.update_self]
          · rw [isVictim]
            apply spared nextInv
            intro other different _
            rw [contents, Function.update_of_ne different]
          · intro some
            exact absurd isVictim some
      | @evicting handle _ id victim entry full leastRecent nextInv contents follows =>
          refine ⟨handle, next, result, nextInv, ?_, ?_, fun _ => full⟩
          · rw [contents, Function.update_self]
          · rw [isVictim]
            apply spared nextInv
            intro other different notVictim
            have otherVictim : other ≠ victim := fun same => notVictim (congrArg some same.symm)
            rw [contents, Function.update_of_ne different, Function.update_of_ne otherVictim]
      | refused full pinned nextInv contents follows =>
          have released := inv.releaseOld offset
          rw [← released.follows.total] at positive
          rcases released.inv.exists_unpinned (unpinned.releaseOld offset) full positive with
            ⟨other, entry, listed, isUnpinned⟩
          cases (pinned other entry listed).symm.trans isUnpinned
      | panicked spent => omega

theorem Progress.tracked {env : CallEnv} {offset : UInt64} {data : PageBuffer}
    {handle : PageHandle} (progress : engine.Progress env offset data handle next) :
    (next.policy.lookup offset).isSome := by
  cases listed : next.policy.lookup offset with
  | some entry => rfl
  | none =>
      have stored := progress.stored
      rw [contents_eq_none listed] at stored
      cases stored

end Engine

namespace Session

section Unpinned

variable {Backend : Type u} [DuvmBackend Backend] {session next : Session Backend}

theorem unpinned_step {action : CallEnv × Call} (pageCall : action.2.isPageCall = true)
    (unpinned : session.engine.Unpinned) (stepped : session.step action = some next) :
    next.engine.Unpinned := by
  rw [engine_of_step stepped]
  rcases action with ⟨env, call⟩
  cases call with
  | store offset data => exact unpinned.storePage env offset data
  | load offset => exact unpinned.loadPage env offset
  | invalidate offset => exact unpinned.invalidatePage offset
  | setFlag offset flag => cases pageCall
  | clearFlag offset flag => cases pageCall

end Unpinned

variable {Backend : Type u} [LawfulBackend Backend] {session next : Session Backend}

/-- Only a store spends a handle. -/
theorem follows_of_step {action : CallEnv × Call} (inv : session.engine.Inv)
    (stepped : session.step action = some next) :
    ∃ spent ≤ [action.2].countP Call.isStore, session.engine.Follows next.engine spent := by
  cases stepped_of_step inv stepped with
  | stored ended =>
      cases ended with
      | placed room nextInv contents follows => exact ⟨1, Nat.le_refl 1, follows⟩
      | evicting full leastRecent nextInv contents follows => exact ⟨1, Nat.le_refl 1, follows⟩
  | refused ended =>
      cases ended with
      | refused full pinned nextInv contents follows => exact ⟨0, Nat.zero_le _, follows⟩
  | loaded found same => exact ⟨0, Nat.zero_le _, same.follows⟩
  | missed absent same => exact ⟨0, Nat.zero_le _, same.follows⟩
  | invalidated released => exact ⟨0, Nat.zero_le _, released.follows⟩
  | flagged same => exact ⟨0, Nat.zero_le _, same.follows⟩
  | unflagged same => exact ⟨0, Nat.zero_le _, same.follows⟩

/-- What a session of page calls leads to. -/
structure Advanced (backends : HashMap UInt8 Backend) (session : Session Backend)
    (calls : List Call) : Prop where
  agrees : session.Agrees
  unpinned : session.engine.Unpinned
  issued : session.engine.issuedPages ≤ calls.countP Call.isStore
  total : session.engine.totalPages = (start backends).engine.totalPages

variable {backends : HashMap UInt8 Backend}

theorem advanced_start
    (empty : ∀ id backend, backends.lookup id = some backend → Empty backend) :
    (start backends).Advanced backends [] where
  agrees := agrees_start empty
  unpinned := by
    intro offset entry listed
    cases (AList.lookup_empty offset).symm.trans listed
  issued := (total_eq_zero fun id backend found => (empty id backend found).issued).le
  total := rfl

theorem Advanced.step {calls : List Call} {action : CallEnv × Call}
    (advanced : session.Advanced backends calls) (pageCall : action.2.isPageCall = true)
    (unspent : (calls ++ [action.2]).countP Call.isStore ≤ PageHandle.offsetLimit) :
    ∃ next, session.step action = some next ∧ next.Advanced backends (calls ++ [action.2]) := by
  rw [List.countP_append] at unspent
  have issued := advanced.issued
  have available : action.2.isStore → session.engine.issuedPages < PageHandle.offsetLimit := by
    intro isStore
    rw [List.countP_singleton, if_pos isStore] at unspent
    omega
  rcases exists_step advanced.agrees.inv action available with ⟨next, stepped⟩
  rcases follows_of_step advanced.agrees.inv stepped with ⟨spent, atMost, follows⟩
  refine ⟨next, stepped, advanced.agrees.step stepped,
    unpinned_step pageCall advanced.unpinned stepped, ?_, follows.total.trans advanced.total⟩
  rw [follows.issued, List.countP_append]
  omega

/-- A session of page calls goes on as long as handles are left. -/
theorem exists_advanced
    (empty : ∀ id backend, backends.lookup id = some backend → Empty backend)
    (actions : List (CallEnv × Call)) (pageCalls : ∀ action ∈ actions, action.2.isPageCall = true)
    (unspent : (actions.map Prod.snd).countP Call.isStore ≤ PageHandle.offsetLimit) :
    ∃ session, Transition.run step (start backends) actions = some session ∧
      session.Advanced backends (actions.map Prod.snd) := by
  induction actions using List.reverseRecOn with
  | nil => exact ⟨start backends, rfl, advanced_start empty⟩
  | append_singleton earlier action ih =>
      simp only [List.map_append, List.map_cons, List.map_nil] at unspent ⊢
      have fewer : (earlier.map Prod.snd).countP Call.isStore ≤ PageHandle.offsetLimit := by
        rw [List.countP_append] at unspent
        omega
      rcases ih (fun other listed => pageCalls other (List.mem_append_left _ listed)) fewer with
        ⟨session, reached, advanced⟩
      rcases advanced.step (pageCalls action (by simp)) unspent with ⟨next, stepped, isNext⟩
      refine ⟨next, ?_, isNext⟩
      rw [Transition.run_concat, reached]
      exact stepped

end Session

theorem not_room_of_full {codec : Lz4} {engine : Engine (LocalBackend codec)} (inv : engine.Inv)
    (full : engine.Full) {id : UInt8} {backend : LocalBackend codec}
    (found : engine.backends.lookup id = some backend) :
    (DuvmBackend.capacity backend).1 ≤ (DuvmBackend.capacity backend).2 := by
  have spent := Nat.not_lt.mpr (full id backend found)
  rw [← inv.hasRoom_iff found, Engine.hasRoom, Bool.and_eq_true, decide_eq_true_eq] at spent
  have isHealthy : DuvmBackend.isHealthy backend = true := by cases backend <;> rfl
  exact UInt64.not_lt.mp fun room => spent ⟨isHealthy, room⟩

open Session in
/-- Over local backends every store succeeds as long as handles are left: it tracks its offset,
disturbs at most one other page, and that only if every backend is full. -/
theorem stores_make_progress {codec : Lz4} {backends : HashMap UInt8 (LocalBackend codec)}
    (fresh : ∀ id backend, backends.lookup id = some backend → backend.Fresh)
    (positive : ∀ id backend, backends.lookup id = some backend → 0 < backend.maxPages)
    (nonempty : ∃ id backend, backends.lookup id = some backend)
    {actions : List (CallEnv × Call)}
    (pageCalls : ∀ action ∈ actions, action.2.isPageCall = true)
    (unspent : (actions.map Prod.snd).countP Call.isStore < 2 ^ 56) :
    ∃ session, Transition.run step (start backends) actions = some session ∧
      ∀ env offset data, ∃ handle next,
        session.engine.storePage env offset data = (.ok handle, next) ∧
        (next.policy.lookup offset).isSome ∧
        (∀ later, (next.loadPage later offset).1 = .ok data) ∧
        session.engine.Spared next offset (session.engine.evicted env offset) ∧
        (session.engine.evicted env offset ≠ none → ∀ id backend,
          (session.engine.releaseOld offset).backends.lookup id = some backend →
            (DuvmBackend.capacity backend).1 ≤ (DuvmBackend.capacity backend).2) := by
  rcases exists_advanced (fun id backend found => empty_of_fresh (fresh id backend found)) actions
    pageCalls unspent.le with ⟨session, reached, advanced⟩
  have total : 0 < session.engine.totalPages := by
    rw [advanced.total]
    rcases nonempty with ⟨id, backend, found⟩
    have some : 0 < (LawfulBackend.slots backend).total := by
      rw [LocalBackend.total_slots]
      exact UInt64.lt_iff_toNat_lt.mp (positive id backend found)
    exact some.trans_le
      (HashMap.le_total (fun backend => (LawfulBackend.slots backend).total) found)
  refine ⟨session, reached, fun env offset data => ?_⟩
  rcases advanced.agrees.inv.progress advanced.unpinned total
    (advanced.issued.trans_lt unspent) env offset data with ⟨handle, next, progress⟩
  refine ⟨handle, next, progress.result, progress.tracked, ?_, progress.spared, ?_⟩
  · intro later
    exact (progress.inv.loadPage later offset).1 data progress.stored
  · intro evicting id backend found
    exact not_room_of_full (advanced.agrees.inv.releaseOld offset).inv (progress.full evicting)
      found

theorem positive_oneBackend (id : UInt8) (backend : LocalBackend .literalLz4)
    (found : oneBackend.lookup id = some backend) : 0 < backend.maxPages := by
  simp only [oneBackend, HashMap.lookup_insert_eq_ite, AList.lookup_empty] at found
  split at found
  · cases found
    decide
  · cases found

/-- The one page of a backend is overwritten by the page of another offset. -/
theorem only_page_makes_room :
    ∃ session, Transition.run Session.step (.start oneBackend) (overwrites 1) = some session ∧
      ∃ handle next,
        session.engine.storePage ⟨1, .listed TrackedPage⟩ 5 .zero = (.ok handle, next) ∧
        (next.policy.lookup 5).isSome := by
  rcases stores_make_progress fresh_oneBackend positive_oneBackend ⟨0, _, rfl⟩
    (fun action listed => by rw [List.eq_of_mem_replicate listed]; rfl)
    ((countP_overwrites 1).trans_lt (by decide)) with ⟨session, reached, progress⟩
  rcases progress ⟨1, .listed TrackedPage⟩ 5 .zero with ⟨handle, next, stored, tracked, _⟩
  exact ⟨session, reached, handle, next, stored, tracked⟩

open Session in
/-- When the handles of the only backend are used up, a store panics. -/
theorem progress_ends_with_handles :
    (∀ id backend, oneBackend.lookup id = some backend → backend.Fresh ∧ 0 < backend.maxPages) ∧
      (∀ action ∈ overwrites (2 ^ 56), action.2.isPageCall = true) ∧
      ∃ session, Transition.run step (start oneBackend) (overwrites (2 ^ 56)) = some session ∧
        (session.engine.storePage ⟨0, .listed TrackedPage⟩ 0 .zero).1 = .panic := by
  refine ⟨?_, ?_, ?_⟩
  · intro id backend found
    exact ⟨fresh_oneBackend id backend found, positive_oneBackend id backend found⟩
  · intro action listed
    rw [List.eq_of_mem_replicate listed]
    rfl
  · rcases handles_run_out with ⟨session, reached, panicked⟩
    refine ⟨session, reached, ?_⟩
    simp only [step] at panicked
    cases result : session.engine.storePage ⟨0, .listed TrackedPage⟩ 0 .zero with
    | mk outcome engine =>
        rw [result] at panicked
        cases outcome with
        | ok handle => cases panicked
        | err error => cases panicked
        | panic => rfl

end Duvm.Daemon
