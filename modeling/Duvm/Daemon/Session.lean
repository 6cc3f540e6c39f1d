import Duvm.Daemon.Placement
import Duvm.Library.Log
import Duvm.Library.Transition

/-!
# Sessions with the engine

A session is the engine together with the record of the calls made on it: what
was called, what came back, and which page was given up to make room. A call
which panics ends the session.

What the record says about an offset is read off the last event which touched
it: a store or an invalidation of the offset, or its eviction. Over lawful
backends that is what the engine holds.
-/

namespace Duvm.Daemon

open Function (update)

universe u

/-- The calls which a client makes on the engine and on its policy. -/
inductive Call where
  | store (offset : UInt64) (data : PageBuffer)
  | load (offset : UInt64)
  | invalidate (offset : UInt64)
  | setFlag (offset : UInt64) (flag : PageFlags)
  | clearFlag (offset : UInt64) (flag : PageFlags)
deriving DecidableEq

inductive Reply where
  | handle (handle : PageHandle)
  | page (data : PageBuffer)
  | done
  | error (error : DuvmError)
deriving DecidableEq

/-- A call, its result, and the offset whose page it gave up for another one. -/
structure Event where
  call : Call
  reply : Reply
  evicted : Option UInt64
deriving DecidableEq

namespace Event

def touches (offset : UInt64) (event : Event) : Bool :=
  (match event.call with
    | .store stored _ => stored = offset
    | .invalidate invalidated => invalidated = offset
    | _ => false) || event.evicted = some offset

/-- The page which the event leaves under an offset it touches. -/
def leaves (offset : UInt64) (event : Event) : Option PageBuffer :=
  match event.call, event.reply with
  | .store stored data, .handle _ => if stored = offset then some data else none
  | _, _ => none

end Event

/-- The page which is kept for an offset according to the record. -/
def kept (log : List Event) (offset : UInt64) : Option PageBuffer :=
  (Log.last? (Event.touches offset) log).bind (Event.leaves offset)

theorem kept_concat (log : List Event) (event : Event) (offset : UInt64) :
    kept (log ++ [event]) offset =
      if event.touches offset then event.leaves offset else kept log offset := by
  simp only [kept, Log.last?_concat]
  split
  · rfl
  · rfl

theorem kept_concat_of_untouched {log : List Event} {event : Event}
    (untouched : ∀ offset, event.touches offset = false) :
    kept (log ++ [event]) = kept log := by
  funext offset
  rw [kept_concat, untouched offset]
  rfl

theorem kept_stored (log : List Event) (offset : UInt64) (data : PageBuffer)
    (handle : PageHandle) :
    kept (log ++ [⟨.store offset data, .handle handle, none⟩]) =
      update (kept log) offset (some data) := by
  funext other
  rw [kept_concat, Function.update_apply]
  by_cases same : other = offset
  · simp [Event.touches, Event.leaves, same]
  · simp [Event.touches, same, Ne.symm same]

theorem kept_evicting (log : List Event) (offset victim : UInt64) (data : PageBuffer)
    (handle : PageHandle) :
    kept (log ++ [⟨.store offset data, .handle handle, some victim⟩]) =
      update (update (kept log) victim none) offset (some data) := by
  funext other
  rw [kept_concat, Function.update_apply, Function.update_apply]
  by_cases same : other = offset
  · simp [Event.touches, Event.leaves, same]
  · by_cases isVictim : other = victim
    · subst isVictim
      simp [Event.touches, Event.leaves, same, Ne.symm same]
    · simp [Event.touches, same, Ne.symm same, isVictim, Ne.symm isVictim]

theorem kept_refused (log : List Event) (offset : UInt64) (data : PageBuffer)
    (error : DuvmError) :
    kept (log ++ [⟨.store offset data, .error error, none⟩]) =
      update (kept log) offset none := by
  funext other
  rw [kept_concat, Function.update_apply]
  by_cases same : other = offset
  · simp [Event.touches, Event.leaves, same]
  · simp [Event.touches, same, Ne.symm same]

theorem kept_invalidated (log : List Event) (offset : UInt64) :
    kept (log ++ [⟨.invalidate offset, .done, none⟩]) = update (kept log) offset none := by
  funext other
  rw [kept_concat, Function.update_apply]
  by_cases same : other = offset
  · simp [Event.touches, Event.leaves, same]
  · simp [Event.touches, same, Ne.symm same]

structure Session (Backend : Type u) where
  engine : Engine Backend
  log : List Event

namespace Session

variable {Backend : Type u}

/-- A new engine, and nothing recorded. -/
def start (backends : HashMap UInt8 Backend) : Session Backend := ⟨.withBackends backends, []⟩

def record (session : Session Backend) (engine : Engine Backend) (event : Event) :
    Session Backend :=
  ⟨engine, session.log ++ [event]⟩

/-- One call; there is no session after a panic. -/
def step [DuvmBackend Backend] (session : Session Backend) :
    CallEnv × Call → Option (Session Backend)
  | (env, .store offset data) =>
      let event reply := ⟨.store offset data, reply, session.engine.evicted env offset⟩
      match session.engine.storePage env offset data with
      | (.ok handle, engine) => some (session.record engine (event (.handle handle)))
      | (.err error, engine) => some (session.record engine (event (.error error)))
      | (.panic, _) => none
  | (env, .load offset) =>
      match session.engine.loadPage env offset with
      | (.ok data, engine) => some (session.record engine ⟨.load offset, .page data, none⟩)
      | (.error error, engine) => some (session.record engine ⟨.load offset, .error error, none⟩)
  | (_, .invalidate offset) =>
      match session.engine.invalidatePage offset with
      | (.ok (), engine) => some (session.record engine ⟨.invalidate offset, .done, none⟩)
      | (.error error, engine) =>
          some (session.record engine ⟨.invalidate offset, .error error, none⟩)
  | (_, .setFlag offset flag) =>
      let policy := session.engine.policy.setFlag offset flag
      some (session.record { session.engine with policy } ⟨.setFlag offset flag, .done, none⟩)
  | (_, .clearFlag offset flag) =>
      let policy := session.engine.policy.clearFlag offset flag
      some (session.record { session.engine with policy } ⟨.clearFlag offset flag, .done, none⟩)

section Step

variable [DuvmBackend Backend] {session : Session Backend} {engine : Engine Backend}
  {env : CallEnv} {offset : UInt64} {data : PageBuffer}

theorem step_of_stored {handle : PageHandle}
    (stored : session.engine.storePage env offset data = (.ok handle, engine)) :
    session.step (env, .store offset data) = some (session.record engine
      ⟨.store offset data, .handle handle, session.engine.evicted env offset⟩) := by
  simp only [step]
  rw [stored]

theorem step_of_refused {error : DuvmError}
    (refused : session.engine.storePage env offset data = (.err error, engine)) :
    session.step (env, .store offset data) = some (session.record engine
      ⟨.store offset data, .error error, session.engine.evicted env offset⟩) := by
  simp only [step]
  rw [refused]

theorem step_of_loaded (loaded : session.engine.loadPage env offset = (.ok data, engine)) :
    session.step (env, .load offset) = some (session.record engine
      ⟨.load offset, .page data, none⟩) := by
  simp only [step]
  rw [loaded]

theorem step_of_invalidated (env : CallEnv)
    (invalidated : session.engine.invalidatePage offset = (.ok (), engine)) :
    session.step (env, .invalidate offset) = some (session.record engine
      ⟨.invalidate offset, .done, none⟩) := by
  simp only [step]
  rw [invalidated]

/-- The engine which a call leaves behind. -/
def engineAfter (engine : Engine Backend) : CallEnv × Call → Engine Backend
  | (env, .store offset data) => (engine.storePage env offset data).2
  | (env, .load offset) => (engine.loadPage env offset).2
  | (_, .invalidate offset) => (engine.invalidatePage offset).2
  | (_, .setFlag offset flag) => { engine with policy := engine.policy.setFlag offset flag }
  | (_, .clearFlag offset flag) => { engine with policy := engine.policy.clearFlag offset flag }

/-- What a call leads to, over any backends. -/
inductive Called (session : Session Backend) : CallEnv × Call → Session Backend → Prop
  | stored {env : CallEnv} {offset : UInt64} {data : PageBuffer} {handle : PageHandle}
      {engine : Engine Backend}
      (result : session.engine.storePage env offset data = (.ok handle, engine)) :
      Called session (env, .store offset data) (session.record engine
        ⟨.store offset data, .handle handle, session.engine.evicted env offset⟩)
  | refused {env : CallEnv} {offset : UInt64} {data : PageBuffer} {error : DuvmError}
      {engine : Engine Backend}
      (result : session.engine.storePage env offset data = (.err error, engine)) :
      Called session (env, .store offset data) (session.record engine
        ⟨.store offset data, .error error, session.engine.evicted env offset⟩)
  | loaded {env : CallEnv} {offset : UInt64} {data : PageBuffer} {engine : Engine Backend}
      (result : session.engine.loadPage env offset = (.ok data, engine)) :
      Called session (env, .load offset)
        (session.record engine ⟨.load offset, .page data, none⟩)
  | missed {env : CallEnv} {offset : UInt64} {error : DuvmError} {engine : Engine Backend}
      (result : session.engine.loadPage env offset = (.error error, engine)) :
      Called session (env, .load offset)
        (session.record engine ⟨.load offset, .error error, none⟩)
  | invalidated {env : CallEnv} {offset : UInt64} {engine : Engine Backend}
      (result : session.engine.invalidatePage offset = (.ok (), engine)) :
      Called session (env, .invalidate offset)
        (session.record engine ⟨.invalidate offset, .done, none⟩)
  | retained {env : CallEnv} {offset : UInt64} {error : DuvmError} {engine : Engine Backend}
      (result : session.engine.invalidatePage offset = (.error error, engine)) :
      Called session (env, .invalidate offset)
        (session.record engine ⟨.invalidate offset, .error error, none⟩)
  | flagged {env : CallEnv} {offset : UInt64} {flag : PageFlags} :
      Called session (env, .setFlag offset flag) (session.record
        { session.engine with policy := session.engine.policy.setFlag offset flag }
        ⟨.setFlag offset flag, .done, none⟩)
  | unflagged {env : CallEnv} {offset : UInt64} {flag : PageFlags} :
      Called session (env, .clearFlag offset flag) (session.record
        { session.engine with policy := session.engine.policy.clearFlag offset flag }
        ⟨.clearFlag offset flag, .done, none⟩)

variable {next : Session Backend}

theorem called_of_step {action : CallEnv × Call} (stepped : session.step action = some next) :
    Called session action next := by
  rcases action with ⟨env, call⟩
  cases call with
  | store offset data =>
      simp only [step] at stepped
      cases result : session.engine.storePage env offset data with
      | mk outcome engine =>
          rw [result] at stepped
          cases outcome with
          | ok handle =>
              cases stepped
              exact .stored result
          | err error =>
              cases stepped
              exact .refused result
          | panic => cases stepped
  | load offset =>
      simp only [step] at stepped
      cases result : session.engine.loadPage env offset with
      | mk outcome engine =>
          rw [result] at stepped
          cases outcome with
          | ok data =>
              cases stepped
              exact .loaded result
          | error error =>
              cases stepped
              exact .missed result
  | invalidate offset =>
      simp only [step] at stepped
      cases result : session.engine.invalidatePage offset with
      | mk outcome engine =>
          rw [result] at stepped
          cases outcome with
          | ok done =>
              cases stepped
              exact .invalidated result
          | error error =>
              cases stepped
              exact .retained result
  | setFlag offset flag =>
      cases stepped
      exact .flagged
  | clearFlag offset flag =>
      cases stepped
      exact .unflagged

theorem engine_of_step {action : CallEnv × Call} (stepped : session.step action = some next) :
    next.engine = engineAfter session.engine action := by
  cases called_of_step stepped with
  | stored result => exact (congrArg Prod.snd result).symm
  | refused result => exact (congrArg Prod.snd result).symm
  | loaded result => exact (congrArg Prod.snd result).symm
  | missed result => exact (congrArg Prod.snd result).symm
  | invalidated result => exact (congrArg Prod.snd result).symm
  | retained result => exact (congrArg Prod.snd result).symm
  | flagged => rfl
  | unflagged => rfl

theorem running_of_step (stepped : session.step (env, .store offset data) = some next) :
    (session.engine.storePage env offset data).1 ≠ .panic := by
  cases called_of_step stepped with
  | stored result => simp [result]
  | refused result => simp [result]

end Step

variable [LawfulBackend Backend]

/-- The engine keeps what the record says. -/
structure Agrees (session : Session Backend) : Prop where
  inv : session.engine.Inv
  contents : session.engine.contents = kept session.log

/-- What a step does, when the engine keeps what the record says. -/
inductive Stepped (session : Session Backend) : CallEnv × Call → Session Backend → Prop
  | stored {env : CallEnv} {offset : UInt64} {data : PageBuffer} {victim : Option UInt64}
      {handle : PageHandle} {engine : Engine Backend}
      (ended : session.engine.Stored offset data victim (.ok handle) engine) :
      Stepped session (env, .store offset data)
        (session.record engine ⟨.store offset data, .handle handle, victim⟩)
  | refused {env : CallEnv} {offset : UInt64} {data : PageBuffer} {error : DuvmError}
      {engine : Engine Backend}
      (ended : session.engine.Stored offset data none (.err error) engine) :
      Stepped session (env, .store offset data)
        (session.record engine ⟨.store offset data, .error error, none⟩)
  | loaded {env : CallEnv} {offset : UInt64} {data : PageBuffer} {engine : Engine Backend}
      (found : session.engine.contents offset = some data)
      (same : session.engine.SamePlaces engine) :
      Stepped session (env, .load offset)
        (session.record engine ⟨.load offset, .page data, none⟩)
  | missed {env : CallEnv} {offset : UInt64} {error : DuvmError} {engine : Engine Backend}
      (absent : session.engine.contents offset = none)
      (same : session.engine.SamePlaces engine) :
      Stepped session (env, .load offset)
        (session.record engine ⟨.load offset, .error error, none⟩)
  | invalidated {env : CallEnv} {offset : UInt64} {engine : Engine Backend}
      (released : session.engine.Released engine offset) :
      Stepped session (env, .invalidate offset)
        (session.record engine ⟨.invalidate offset, .done, none⟩)
  | flagged {env : CallEnv} {offset : UInt64} {flag : PageFlags} {engine : Engine Backend}
      (same : session.engine.SamePlaces engine) :
      Stepped session (env, .setFlag offset flag)
        (session.record engine ⟨.setFlag offset flag, .done, none⟩)
  | unflagged {env : CallEnv} {offset : UInt64} {flag : PageFlags} {engine : Engine Backend}
      (same : session.engine.SamePlaces engine) :
      Stepped session (env, .clearFlag offset flag)
        (session.record engine ⟨.clearFlag offset flag, .done, none⟩)

variable {action : CallEnv × Call} {session : Session Backend}

variable {next : Session Backend}

theorem stepped_of_step (inv : session.engine.Inv) (stepped : session.step action = some next) :
    Stepped session action next := by
  cases called_of_step stepped with
  | @stored env offset data handle engine result =>
      have ended := inv.storePage env offset data
      rw [result] at ended
      exact .stored ended
  | @refused env offset data error engine result =>
      have ended := inv.storePage env offset data
      rw [result] at ended
      simp only at ended
      generalize session.engine.evicted env offset = victim at ended ⊢
      cases ended with
      | refused full pinned nextInv contents follows =>
          exact .refused (.refused full pinned nextInv contents follows)
  | @loaded env offset data engine result =>
      rcases inv.loadPage env offset with ⟨found, absent, same⟩
      rw [result] at found absent same
      cases kept : session.engine.contents offset with
      | some page =>
          cases found page kept
          exact .loaded kept same
      | none =>
          rcases absent kept with ⟨error, failed⟩
          cases failed
  | @missed env offset error engine result =>
      rcases inv.loadPage env offset with ⟨found, _, same⟩
      rw [result] at found same
      refine .missed ?_ same
      rw [Option.eq_none_iff_forall_ne_some]
      intro data kept
      cases found data kept
  | @invalidated env offset engine result =>
      rcases inv.invalidatePage offset with ⟨_, released⟩
      rw [result] at released
      exact .invalidated released
  | @retained env offset error engine result =>
      rcases inv.invalidatePage offset with ⟨done, _⟩
      rw [result] at done
      cases done
  | @flagged env offset flag =>
      refine .flagged (Engine.samePlaces_of_retouched rfl ?_)
      exact PolicyEngine.retouched_setFlag _ offset flag
  | @unflagged env offset flag =>
      refine .unflagged (Engine.samePlaces_of_retouched rfl ?_)
      exact PolicyEngine.retouched_clearFlag _ offset flag

theorem calls_concat_of_step (inv : session.engine.Inv)
    (stepped : session.step action = some next) :
    next.log.map Event.call = session.log.map Event.call ++ [action.2] := by
  cases stepped_of_step inv stepped <;> simp [record]

theorem Agrees.of_samePlaces {engine : Engine Backend} {event : Event} (agrees : session.Agrees)
    (same : session.engine.SamePlaces engine) (untouched : ∀ offset, event.touches offset = false) :
    (session.record engine event).Agrees where
  inv := same.inv agrees.inv
  contents := by
    simp only [record]
    rw [same.contents_eq, agrees.contents, kept_concat_of_untouched untouched]

/-- Every call keeps the engine and the record in agreement. -/
theorem Agrees.step (agrees : session.Agrees) (stepped : session.step action = some next) :
    next.Agrees := by
  cases stepped_of_step agrees.inv stepped with
  | stored ended =>
      cases ended with
      | placed room nextInv contents follows =>
          refine ⟨nextInv, contents.trans ?_⟩
          rw [agrees.contents, record, kept_stored]
      | evicting full leastRecent nextInv contents follows =>
          refine ⟨nextInv, contents.trans ?_⟩
          rw [agrees.contents, record, kept_evicting]
  | refused ended =>
      cases ended with
      | refused full pinned nextInv contents follows =>
          refine ⟨nextInv, contents.trans ?_⟩
          rw [agrees.contents, record, kept_refused]
  | loaded found same => exact agrees.of_samePlaces same fun _ => rfl
  | missed absent same => exact agrees.of_samePlaces same fun _ => rfl
  | invalidated released =>
      refine ⟨released.inv, released.contents.trans ?_⟩
      rw [agrees.contents, record, kept_invalidated]
  | flagged same => exact agrees.of_samePlaces same fun _ => rfl
  | unflagged same => exact agrees.of_samePlaces same fun _ => rfl

/-- A backend which has been set up and holds nothing yet. -/
structure Empty (backend : Backend) : Prop where
  valid : LawfulBackend.Valid backend
  used : (LawfulBackend.slots backend).used = 0
  issued : (LawfulBackend.slots backend).issued = 0

theorem empty_of_fresh {codec : Lz4} {backend : LocalBackend codec} (fresh : backend.Fresh) :
    Empty backend := by
  cases backend with
  | memory backend =>
      rcases fresh with ⟨backendId, maxPages, rfl⟩
      exact ⟨PageTable.valid_new backendId maxPages, rfl, rfl⟩
  | compress backend =>
      rcases fresh with ⟨backendId, maxPages, rfl⟩
      refine ⟨⟨PageTable.valid_new backendId maxPages, ?_⟩, rfl, rfl⟩
      intro slot value listed
      simp [CompressBackend.new, PageTable.new] at listed

variable {backends : HashMap UInt8 Backend}

omit [LawfulBackend Backend] in
theorem total_eq_zero {measure : Backend → ℕ}
    (zero : ∀ id backend, backends.lookup id = some backend → measure backend = 0) :
    HashMap.total measure backends = 0 := by
  apply List.sum_eq_zero
  intro count listed
  rcases List.mem_map.mp listed with ⟨entry, isEntry, rfl⟩
  exact zero entry.1 entry.2 (HashMap.mem_entries_iff.mp isEntry)

theorem agrees_start
    (empty : ∀ id backend, backends.lookup id = some backend → Empty backend) :
    (start backends).Agrees where
  inv := by
    have untracked : ∀ offset, (start backends).engine.policy.lookup offset = none :=
      fun offset => AList.lookup_empty offset
    refine ⟨fun found => (empty _ _ found).valid, ?_, ?_, ?_⟩
    · intro offset entry listed
      rw [untracked] at listed
      simp at listed
    · intro left right first second listed
      rw [untracked] at listed
      simp at listed
    · exact total_eq_zero fun id backend found => (empty id backend found).used
  contents := by
    funext offset
    exact Engine.contents_eq_none (AList.lookup_empty offset)

/-- In every state of every session the engine keeps what the record says. -/
theorem agrees_of_run {actions : List (CallEnv × Call)}
    (empty : ∀ id backend, backends.lookup id = some backend → Empty backend)
    (reached : Transition.run step (start backends) actions = some session) : session.Agrees :=
  Transition.run_invariant (agrees_start empty)
    (fun _ _ _ agrees stepped => agrees.step stepped) reached

/-- A load returns what the record says. -/
theorem Agrees.loadPage_eq_ok_iff (agrees : session.Agrees) (env : CallEnv) (offset : UInt64)
    (data : PageBuffer) :
    (session.engine.loadPage env offset).1 = .ok data ↔ kept session.log offset = some data := by
  rcases agrees.inv.loadPage env offset with ⟨found, absent, _⟩
  rw [← agrees.contents]
  cases isKept : session.engine.contents offset with
  | none =>
      rcases absent isKept with ⟨error, failed⟩
      simp [failed]
  | some page => simp [found page isKept]

end Session

end Duvm.Daemon
