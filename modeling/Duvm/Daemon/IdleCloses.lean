import Duvm.Backend.IdleLink
import Duvm.Daemon.Restarts
import Duvm.Daemon.Moves

/-!
# Loads over idle connections

Engines whose backends are TCP backends, while the memory servers keep running and
close connections which are idle. A page which the engine tracks stays on its
server. But the backend learns that its connection is closed only from a request
which fails, and if that request is a load, the load fails with it.
-/

namespace Duvm.Daemon

open Function (update)

namespace Engine

variable {engine next : Engine IdleLink} {held : UInt64 → Option PageBuffer}

/-- The pages which the engine tracks are on the servers, each at an offset of its own. -/
structure Resting (engine : Engine IdleLink) (held : UInt64 → Option PageBuffer) : Prop where
  steady : ∀ id idle, engine.backends.lookup id = some idle → idle.Steady
  stored : ∀ offset entry, engine.policy.lookup offset = some entry →
    ∃ idle data, engine.backends.lookup entry.backendId = some idle ∧
      held offset = some data ∧ idle.page entry.handle.offset = some data
  apart : ∀ left right first second, engine.policy.lookup left = some first →
    engine.policy.lookup right = some second → first.backendId = second.backendId →
    first.handle.offset = second.handle.offset → left = right

namespace Resting

/-- Fewer pages are tracked, or the same. -/
theorem narrow (resting : engine.Resting held) (backends : next.backends = engine.backends)
    (fewer : ∀ offset entry, next.policy.lookup offset = some entry →
      ∃ old, engine.policy.lookup offset = some old ∧ old.handle = entry.handle ∧
        old.backendId = entry.backendId) : next.Resting held where
  steady := by
    rw [backends]
    exact resting.steady
  stored offset entry listed := by
    rcases fewer offset entry listed with ⟨old, wasListed, sameHandle, sameBackend⟩
    rw [backends, ← sameHandle, ← sameBackend]
    exact resting.stored offset old wasListed
  apart left right first second isLeft isRight onSame sameSlot := by
    rcases fewer left first isLeft with ⟨one, oneListed, oneHandle, oneBackend⟩
    rcases fewer right second isRight with ⟨other, otherListed, otherHandle, otherBackend⟩
    apply resting.apart left right one other oneListed otherListed
    · rw [oneBackend, otherBackend, onSame]
    · rw [oneHandle, otherHandle, sameSlot]

variable {idle : IdleLink} {offset : UInt64}

/-- A backend changes, but not at the pages which are tracked. -/
theorem change (resting : engine.Resting held) {id : UInt8} {after : IdleLink}
    (found : engine.backends.lookup id = some idle) (steady : after.Steady)
    (same : ∀ offset entry, engine.policy.lookup offset = some entry → entry.backendId = id →
      after.page entry.handle.offset = idle.page entry.handle.offset) :
    (engine.setBackend id after).Resting held where
  steady other backend isFound := by
    rcases HashMap.new_or_old found isFound with ⟨rfl, rfl⟩ | ⟨_, wasFound⟩
    · exact steady
    · exact resting.steady other backend wasFound
  stored offset entry listed := by
    rcases resting.stored offset entry listed with ⟨backend, data, isFound, isHeld, present⟩
    rw [setBackend, HashMap.lookup_replace_eq_ite (HashMap.mem_of_lookup_eq_some found)]
    split
    · next onSame =>
        rw [onSame, found] at isFound
        rcases Option.some.inj isFound with rfl
        exact ⟨after, data, rfl, isHeld, (same offset entry listed onSame).trans present⟩
    · exact ⟨backend, data, isFound, isHeld, present⟩
  apart := resting.apart

/-- No tracked page is where the server has none. -/
theorem slot_ne (resting : engine.Resting held) {id : UInt8}
    (found : engine.backends.lookup id = some idle) {slot : UInt64}
    (absent : idle.page slot = none) {entry : PageMeta}
    (listed : engine.policy.lookup offset = some entry) (onBackend : entry.backendId = id) :
    entry.handle.offset ≠ slot := by
  rintro rfl
  rcases resting.stored offset entry listed with ⟨backend, data, isFound, -, present⟩
  rw [onBackend, found] at isFound
  rcases Option.some.inj isFound with rfl
  rw [absent] at present
  cases present

theorem dropped (resting : engine.Resting held) {entry : PageMeta}
    (listed : engine.policy.lookup offset = some entry) :
    ((engine.untrack offset).freeOn entry.backendId entry.handle).2.Resting held := by
  have narrowed : (engine.untrack offset).Resting held := by
    refine resting.narrow ?_ ?_
    · rfl
    · intro other found isFound
      exact ⟨found, (listed_of_untrack isFound).2, rfl, rfl⟩
  unfold freeOn
  split
  · exact narrowed
  · next idle found =>
      rcases (resting.steady _ idle found).freePage entry.handle with ⟨steady, same⟩
      apply narrowed.change found steady
      intro other tracked isFound onSame
      rcases listed_of_untrack isFound with ⟨distinct, wasListed⟩
      apply same
      intro sameSlot
      exact distinct (resting.apart other offset tracked entry wasListed listed onSame sameSlot)

/-- A new page at an offset of its own. -/
theorem placed (resting : engine.Resting held) {id : UInt8}
    (found : engine.backends.lookup id = some idle) {handle : PageHandle} {data : PageBuffer}
    (present : idle.page handle.offset = some data) (isHeld : held offset = some data)
    (fresh : ∀ other entry, engine.policy.lookup other = some entry → entry.backendId = id →
      entry.handle.offset ≠ handle.offset) (env : CallEnv) (tier : Tier) :
    { engine with policy := engine.policy.recordStore env offset handle id tier }.Resting held
    where
  steady := resting.steady
  stored other entry listed := by
    rw [lookup_recordStore] at listed
    split at listed
    · next same =>
        rw [same, ← Option.some.inj listed]
        exact ⟨idle, data, found, isHeld, present⟩
    · exact resting.stored other entry listed
  apart left right first second isLeft isRight onSame sameSlot := by
    rw [lookup_recordStore] at isLeft isRight
    split at isLeft
    · next leftNew =>
        split at isRight
        · next rightNew => rw [leftNew, rightNew]
        · rw [← Option.some.inj isLeft] at onSame sameSlot
          exact absurd sameSlot.symm (fresh right second isRight onSame.symm)
    · split at isRight
      · rw [← Option.some.inj isRight] at onSame sameSlot
        exact absurd sameSlot (fresh left first isLeft onSame)
      · exact resting.apart left right first second isLeft isRight onSame sameSlot

theorem move {request : Option (UInt64 × PageBuffer)} (resting : engine.Resting held)
    (requested : ∀ offset data, request = some (offset, data) → held offset = some data)
    (move : Move request engine next) : next.Resting held := by
  cases move with
  | counted stats => exact ⟨resting.steady, resting.stored, resting.apart⟩
  | dropped offset entry listed => exact resting.dropped listed
  | retouched offset entry updated listed sameHandle sameBackend =>
      refine resting.narrow ?_ ?_
      · rfl
      · intro other found isFound
        exact listed_of_retouched listed sameHandle sameBackend isFound
  | asked offset entry idle listed found =>
      rcases (resting.steady _ idle found).loadPage entry.handle with ⟨steady, same⟩
      exact resting.change found steady fun _ _ _ _ => same _
  | denied id idle after error found refused =>
      rcases (resting.steady _ idle found).denied refused with ⟨steady, same⟩
      exact resting.change found steady fun _ _ _ _ => same _
  | returned id idle issued failed handle data error found allocated refused =>
      rcases (resting.steady _ idle found).allocated allocated with
        ⟨issuedSteady, sameIssued, given, absent⟩
      rcases issuedSteady.storePage given data with ⟨failedSteady, sameFailed, -⟩
      rw [refused] at failedSteady sameFailed
      rcases failedSteady.freePage handle with ⟨steady, same⟩
      apply resting.change found steady
      intro other entry listed onBackend
      have elsewhere := resting.slot_ne found absent listed onBackend
      rw [same _ elsewhere, sameFailed _ elsewhere, sameIssued]
  | placed env tier id idle issued after handle offset data isRequest untracked found allocated
      stored =>
      rcases (resting.steady _ idle found).allocated allocated with
        ⟨issuedSteady, sameIssued, given, absent⟩
      rcases issuedSteady.storePage given data with ⟨steady, same, present⟩
      rw [stored] at steady same present
      have changed : (engine.setBackend id after).Resting held := by
        apply resting.change found steady
        intro other entry listed onBackend
        rw [same _ (resting.slot_ne found absent listed onBackend), sameIssued]
      have foundAfter : (engine.setBackend id after).backends.lookup id = some after := by
        rw [setBackend, HashMap.lookup_replace_eq_ite (HashMap.mem_of_lookup_eq_some found)]
        exact if_pos rfl
      apply changed.placed foundAfter (present rfl) (requested offset data isRequest)
      intro other entry listed onBackend
      exact resting.slot_ne found absent listed onBackend

theorem moves {request : Option (UInt64 × PageBuffer)} (resting : engine.Resting held)
    (requested : ∀ offset data, request = some (offset, data) → held offset = some data)
    (moves : Moves request engine next) : next.Resting held := by
  refine invariant_of_moves (Engine.Resting · held) ?_ resting moves
  intro current after currentResting move
  exact currentResting.move requested move

/-- Nothing is held for an offset without a page. -/
theorem update_of_untracked (resting : engine.Resting held)
    (untracked : engine.policy.lookup offset = none) (data : PageBuffer) :
    engine.Resting (update held offset (some data)) where
  steady := resting.steady
  stored other entry listed := by
    have distinct : other ≠ offset := by
      rintro rfl
      rw [untracked] at listed
      cases listed
    rw [Function.update_of_ne distinct]
    exact resting.stored other entry listed
  apart := resting.apart

end Resting

theorem loadPage_fst {Backend : Type*} [DuvmBackend Backend] {engine : Engine Backend}
    {offset : UInt64} {entry : PageMeta} {backend : Backend}
    (listed : engine.policy.lookup offset = some entry)
    (found : engine.backends.lookup entry.backendId = some backend) (env : CallEnv) :
    (engine.loadPage env offset).1 = (DuvmBackend.loadPage backend entry.handle).1 := by
  simp only [Engine.loadPage, listed, found]
  cases DuvmBackend.loadPage backend entry.handle with
  | mk result after =>
      cases result with
      | error error => rfl
      | ok data => rfl

end Engine

namespace Session

variable {session next : Session IdleLink}

/-- What the record says is kept is on the servers, as long as the engine tracks it. -/
def Rests (session : Session IdleLink) : Prop :=
  ∃ held, session.engine.Resting held ∧
    ∀ offset data, kept session.log offset = some data → held offset = some data

/-- What is kept after a call is what the call asked to be placed, or was kept before. -/
theorem requested_or_kept {log : List Event} {event : Event} {offset : UInt64}
    {data : PageBuffer} (isKept : kept (log ++ [event]) offset = some data) :
    requested event.call = some (offset, data) ∨
      (∀ page, requested event.call ≠ some (offset, page)) ∧ kept log offset = some data := by
  rw [kept_concat] at isKept
  split at isKept
  · left
    unfold Event.leaves at isKept
    split at isKept
    · next stored page handle isStore isHandle =>
        split at isKept
        · next same =>
            rw [isStore, same, Option.some.inj isKept]
            rfl
        · cases isKept
    · cases isKept
  · next untouched =>
      refine .inr ⟨?_, isKept⟩
      intro page asked
      apply untouched
      rcases event with ⟨call, reply, evicted⟩
      cases call with
      | store stored data =>
          cases asked
          simp [Event.touches]
      | load _ => cases asked
      | invalidate _ => cases asked
      | setFlag _ _ => cases asked
      | clearFlag _ _ => cases asked

theorem Rests.step (rests : session.Rests) {env : CallEnv} {call : Call}
    (stepped : session.step (env, call) = some next) : next.Rests := by
  rcases rests with ⟨held, resting, recorded⟩
  rcases advances_of_step stepped with ⟨cleared, event, advances⟩
  have clearing : cleared.Resting held :=
    resting.moves (fun _ _ => (Option.some_ne_none _).symm.elim) advances.clears
  cases request : requested call with
  | none =>
      refine ⟨held, clearing.moves ?_ advances.moves, ?_⟩
      · intro offset data asked
        rw [request] at asked
        cases asked
      · intro offset data isKept
        rw [advances.recorded] at isKept
        rcases requested_or_kept isKept with asked | ⟨-, wasKept⟩
        · rw [advances.called, request] at asked
          cases asked
        · exact recorded offset data wasKept
  | some asked =>
      rcases asked with ⟨offset, data⟩
      have placing := clearing.update_of_untracked (advances.untracked offset data request) data
      refine ⟨_, placing.moves ?_ advances.moves, ?_⟩
      · intro other page asked
        rw [request] at asked
        cases asked
        exact Function.update_self _ _ _
      · intro other page isKept
        rw [advances.recorded] at isKept
        rcases requested_or_kept isKept with asked | ⟨unasked, wasKept⟩
        · rw [advances.called, request] at asked
          cases asked
          exact Function.update_self _ _ _
        · have distinct : other ≠ offset := by
            rintro rfl
            apply unasked data
            rw [advances.called]
            exact request
          rw [Function.update_of_ne distinct]
          exact recorded other page wasKept

/-- Connected TCP backends, before anything is stored. -/
def Idling (backends : HashMap UInt8 IdleLink) : Prop :=
  ∀ id idle, backends.lookup id = some idle → ∃ addr maxPages serverPages,
    idle.link = ⟨.connected id addr maxPages 0, .start serverPages, []⟩

theorem rests_start {backends : HashMap UInt8 IdleLink} (idling : Idling backends) :
    (start backends).Rests := by
  refine ⟨fun _ => none, ⟨?_, ?_, ?_⟩, ?_⟩
  · intro id idle found
    rcases idling id idle found with ⟨addr, maxPages, serverPages, isLink⟩
    refine ⟨?_, ?_, ?_⟩
    · rw [isLink]
      exact .inl ⟨rfl, rfl⟩
    · rw [isLink]
      exact Nat.zero_le _
    · intro slot data present
      rw [IdleLink.page, isLink] at present
      cases present
  · intro offset entry listed
    cases listed
  · intro left right first second listed
    cases listed
  · intro offset data isKept
    cases isKept

theorem rests_of_run {backends : HashMap UInt8 IdleLink} (idling : Idling backends)
    {actions : List (CallEnv × Call)}
    (reached : Transition.run step (start backends) actions = some session) : session.Rests := by
  refine Transition.run_invariant (rests_start idling) ?_ reached
  rintro current ⟨env, call⟩ after rests stepped
  exact rests.step stepped

end Session

/-- In every state which a session can reach, a page which is kept and which the engine has not
given up is loaded if and only if the connection to its server is not closed, or there is none. -/
theorem loadPage_ok_iff_not_interrupted {backends : HashMap UInt8 IdleLink}
    (idling : Session.Idling backends) {actions : List (CallEnv × Call)}
    {session : Session IdleLink}
    (reached : Transition.run Session.step (.start backends) actions = some session)
    {offset : UInt64} {data : PageBuffer} (isKept : kept session.log offset = some data)
    {entry : PageMeta} (tracked : session.engine.policy.lookup offset = some entry)
    {idle : IdleLink} (found : session.engine.backends.lookup entry.backendId = some idle)
    (env : CallEnv) :
    (session.engine.loadPage env offset).1 = .ok data ↔ idle.interrupted = false := by
  rcases Session.rests_of_run idling reached with ⟨held, resting, recorded⟩
  rcases resting.stored offset entry tracked with ⟨backend, page, isFound, isHeld, present⟩
  rw [found] at isFound
  rcases Option.some.inj isFound with rfl
  rw [recorded offset data isKept] at isHeld
  rcases Option.some.inj isHeld with rfl
  rw [Engine.loadPage_fst tracked found]
  exact (resting.steady _ idle found).loadPage_ok_iff present

/-- One TCP backend, and whether its connection is closed before each operation. -/
def idlePeer (closes : List Bool) : HashMap UInt8 IdleLink :=
  AList.singleton 0 ⟨⟨.connected 0 "server" 2 0, .start 2, []⟩, closes.map (⟨·, 0⟩)⟩

theorem idling_idlePeer (closes : List Bool) : Session.Idling (idlePeer closes) := by
  intro id idle found
  rw [idlePeer, ← HashMap.mem_entries_iff, AList.singleton_entries, List.mem_singleton] at found
  cases found
  exact ⟨_, _, _, rfl⟩

/-- The first load finds its connection closed, the second one opens another. -/
theorem load_ok_after_failed_load :
    ∃ session, Transition.run Session.step (.start (idlePeer [false, false, true, true]))
        ([.store 1 (.filled 1), .load 1].map quietly) = some session ∧
      (session.engine.loadPage ⟨0, .listed TrackedPage⟩ 1).1 = .ok (.filled 1) := by
  have ran : ∃ session entry idle,
      Transition.run Session.step (.start (idlePeer [false, false, true, true]))
        ([.store 1 (.filled 1), .load 1].map quietly) = some session ∧
      kept session.log 1 = some (.filled 1) ∧ session.engine.policy.lookup 1 = some entry ∧
      session.engine.backends.lookup entry.backendId = some idle ∧ idle.interrupted = false :=
    ⟨_, _, _, rfl, rfl, rfl, rfl, rfl⟩
  rcases ran with ⟨session, entry, idle, reached, isKept, tracked, found, going⟩
  exact ⟨session, reached, (loadPage_ok_iff_not_interrupted (idling_idlePeer _) reached isKept
    tracked found _).mpr going⟩

/-- A page is stored, the connection is closed, and the page cannot be loaded. -/
theorem load_failed_after_idle_close :
    ∃ session, Transition.run Session.step (.start (idlePeer [false, false, true]))
        [quietly (.store 1 (.filled 1))] = some session ∧
      kept session.log 1 = some (.filled 1) ∧
      (∃ entry, session.engine.policy.lookup 1 = some entry) ∧
      (session.engine.loadPage ⟨0, .listed TrackedPage⟩ 1).1 = .error .io :=
  ⟨_, rfl, rfl, ⟨_, rfl⟩, rfl⟩

end Duvm.Daemon
