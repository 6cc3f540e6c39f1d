import Duvm.Daemon.Session

/-!
# How long a page is kept

A page which a store has acknowledged is kept until its offset is stored again
or invalidated, or until the page is given up for another one. The last happens
only when every backend is full, and then to the page which was used least
recently among the unpinned pages of a backend. A store is refused only when
every backend is full of pinned pages.
-/

namespace Duvm.Daemon

universe u

variable {Backend : Type u} [LawfulBackend Backend]

/-- How a store makes room: what it may give up, and when it is refused. All of it is seen
after the old page of the offset has been freed. -/
structure MakesRoom (engine : Engine Backend) (offset : UInt64) (event : Event) : Prop where
  full : ∀ victim, event.evicted = some victim → (engine.releaseOld offset).Full
  other : ∀ victim, event.evicted = some victim → victim ≠ offset
  leastRecent : ∀ victim, event.evicted = some victim →
    ∃ id entry, (engine.releaseOld offset).policy.LeastRecent id victim entry
  refused : ∀ error, event.reply = .error error →
    event.evicted = none ∧ (engine.releaseOld offset).Full ∧
      ∀ other entry, (engine.releaseOld offset).policy.lookup other = some entry →
        entry.flags.contains .PINNED = true

theorem makesRoom_of_none {engine : Engine Backend} {offset : UInt64} {call : Call}
    {handle : PageHandle} : MakesRoom engine offset ⟨call, .handle handle, none⟩ := by
  constructor
  all_goals
    intro _ impossible
    simp at impossible

theorem Session.makesRoom_of_step {session next : Session Backend} {env : CallEnv}
    {offset : UInt64} {data : PageBuffer} (inv : session.engine.Inv)
    (stepped : session.step (env, .store offset data) = some next) :
    ∃ event, event.call = .store offset data ∧ next.log = session.log ++ [event] ∧
      MakesRoom session.engine offset event := by
  cases stepped_of_step inv stepped with
  | stored ended =>
      refine ⟨_, rfl, rfl, ?_⟩
      cases ended with
      | placed room nextInv contents follows => exact makesRoom_of_none
      | @evicting _ _ _ victim entry full leastRecent nextInv contents follows =>
          have different : victim ≠ offset := by
            intro same
            have listed := leastRecent.listed
            rw [same, (inv.releaseOld offset).untracked] at listed
            simp at listed
          constructor
          · intro _ _
            exact full
          · intro evicted isVictim
            rw [← Option.some.inj isVictim]
            exact different
          · intro evicted isVictim
            rw [← Option.some.inj isVictim]
            exact ⟨_, entry, leastRecent⟩
          · intro error isError
            simp at isError
  | refused ended =>
      refine ⟨_, rfl, rfl, ?_⟩
      cases ended with
      | refused full pinned nextInv contents follows =>
          constructor
          · intro _ impossible
            simp at impossible
          · intro _ impossible
            simp at impossible
          · intro _ impossible
            simp at impossible
          · intro _ _
            exact ⟨rfl, full, pinned⟩

open Session in
/-- In every reachable state a load returns the page of the store which touched its offset
last, and the next store gives up a page only to make room for its own. -/
theorem pages_kept_until_evicted {backends : HashMap UInt8 Backend} {session : Session Backend}
    {past : List (CallEnv × Call)}
    (empty : ∀ id backend, backends.lookup id = some backend → Empty backend)
    (reached : Transition.run step (start backends) past = some session) :
    (∀ env offset data, (session.engine.loadPage env offset).1 = .ok data ↔
      kept session.log offset = some data) ∧
    ∀ env offset data next, session.step (env, .store offset data) = some next →
      ∃ event, event.call = .store offset data ∧ next.log = session.log ++ [event] ∧
        MakesRoom session.engine offset event := by
  have agrees := agrees_of_run empty reached
  refine ⟨agrees.loadPage_eq_ok_iff, ?_⟩
  intro env offset data next stepped
  exact makesRoom_of_step agrees.inv stepped

/-- A memory backend for a single page. -/
def onePage : HashMap UInt8 MemoryBackend :=
  (∅ : HashMap UInt8 MemoryBackend).insert 0 (.new 0 1)

theorem empty_onePage (id : UInt8) (backend : MemoryBackend)
    (found : onePage.lookup id = some backend) : Session.Empty backend := by
  simp only [onePage, HashMap.lookup_insert_eq_ite, AList.lookup_empty] at found
  split at found
  · rw [← Option.some.inj found]
    exact ⟨PageTable.valid_new 0 1, rfl, rfl⟩
  · simp at found

def storeTwice : List (CallEnv × Call) :=
  [(⟨1, .listed TrackedPage⟩, .store 1 (.filled 1)),
    (⟨2, .listed TrackedPage⟩, .store 2 (.filled 2))]

/-- Both stores are acknowledged, and the second page is the one which is kept. -/
theorem second_page_kept :
    ∃ session, Transition.run Session.step (.start onePage) storeTwice = some session ∧
      ∀ env, (session.engine.loadPage env 2).1 = .ok (.filled 2) := by
  have ran : ∃ session, Transition.run Session.step (.start onePage) storeTwice = some session ∧
      kept session.log 2 = some (.filled 2) := ⟨_, rfl, rfl⟩
  rcases ran with ⟨session, reached, isKept⟩
  refine ⟨session, reached, fun env => ?_⟩
  exact ((pages_kept_until_evicted empty_onePage reached).1 env 2 (.filled 2)).mpr isKept

/-- Both stores are acknowledged, and the first page is gone. -/
theorem acknowledged_page_evicted :
    ∃ session first second, Transition.run Session.step (.start onePage) storeTwice =
        some session ∧
      session.log.map Event.reply = [.handle first, .handle second] ∧
      ∀ env, ∃ error, (session.engine.loadPage env 1).1 = .error error := by
  refine ⟨_, _, _, rfl, rfl, fun env => ⟨_, rfl⟩⟩

end Duvm.Daemon
