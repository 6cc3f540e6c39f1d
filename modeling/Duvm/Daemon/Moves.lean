import Duvm.Daemon.Session
import Mathlib.Logic.Relation

/-!
# The moves of the engine

The operations of the engine are made of a few moves, whatever its backends do: a
tracked page is given up and its slot freed, a backend is asked for a page, a slot
is asked for and refused, or given back, or filled and recorded. What every move
preserves holds in every state of every session.
-/

namespace Duvm.Daemon

universe u

namespace Engine

variable {Backend : Type u} [DuvmBackend Backend]

/-- One move of the engine; a page is placed only on request. -/
inductive Move (request : Option (UInt64 × PageBuffer)) (engine : Engine Backend) :
    Engine Backend → Prop
  | counted (stats : DaemonStats) : Move request engine { engine with stats }
  | dropped (offset : UInt64) (entry : PageMeta)
      (listed : engine.policy.lookup offset = some entry) :
      Move request engine ((engine.untrack offset).freeOn entry.backendId entry.handle).2
  | retouched (offset : UInt64) (entry updated : PageMeta)
      (listed : engine.policy.lookup offset = some entry)
      (sameHandle : updated.handle = entry.handle)
      (sameBackend : updated.backendId = entry.backendId) :
      Move request engine
        { engine with policy := ⟨engine.policy.pages.replace offset updated⟩ }
  | asked (offset : UInt64) (entry : PageMeta) (backend : Backend)
      (listed : engine.policy.lookup offset = some entry)
      (found : engine.backends.lookup entry.backendId = some backend) :
      Move request engine
        (engine.setBackend entry.backendId (DuvmBackend.loadPage backend entry.handle).2)
  | denied (id : UInt8) (backend after : Backend) (error : DuvmError)
      (found : engine.backends.lookup id = some backend)
      (refused : DuvmBackend.allocPage backend = (.err error, after)) :
      Move request engine (engine.setBackend id after)
  | returned (id : UInt8) (backend issued failed : Backend) (handle : PageHandle)
      (data : PageBuffer) (error : DuvmError)
      (found : engine.backends.lookup id = some backend)
      (allocated : DuvmBackend.allocPage backend = (.ok handle, issued))
      (refused : DuvmBackend.storePage issued handle data = (.error error, failed)) :
      Move request engine (engine.setBackend id (DuvmBackend.freePage failed handle).2)
  | placed (env : CallEnv) (tier : Tier) (id : UInt8) (backend issued after : Backend)
      (handle : PageHandle) (offset : UInt64) (data : PageBuffer)
      (isRequest : request = some (offset, data))
      (untracked : engine.policy.lookup offset = none)
      (found : engine.backends.lookup id = some backend)
      (allocated : DuvmBackend.allocPage backend = (.ok handle, issued))
      (stored : DuvmBackend.storePage issued handle data = (.ok (), after)) :
      Move request engine
        { engine.setBackend id after with
          policy := engine.policy.recordStore env offset handle id tier }

abbrev Moves (request : Option (UInt64 × PageBuffer)) :
    Engine Backend → Engine Backend → Prop :=
  Relation.ReflTransGen (Move request)

variable {request : Option (UInt64 × PageBuffer)} {engine next : Engine Backend}

/-- What every move preserves is preserved by many. -/
theorem invariant_of_moves (Holds : Engine Backend → Prop)
    (preserved : ∀ current after, Holds current → Move request current after → Holds after)
    (start : Holds engine) (moves : Moves request engine next) : Holds next := by
  induction moves with
  | refl => exact start
  | tail _ move ih => exact preserved _ _ ih move

theorem policy_freeOn (engine : Engine Backend) (id : UInt8) (handle : PageHandle) :
    (engine.freeOn id handle).2.policy = engine.policy := by
  unfold freeOn
  split
  · rfl
  · rfl

theorem untracked_releaseOld (engine : Engine Backend) (offset : UInt64) :
    (engine.releaseOld offset).policy.lookup offset = none := by
  unfold releaseOld
  cases listed : engine.policy.lookup offset with
  | none => exact listed
  | some old =>
      simp only [policy_freeOn]
      rw [lookup_untrack, if_pos rfl]

variable {offset : UInt64}

theorem lookup_releaseOld_of_ne (engine : Engine Backend) {stored : UInt64}
    (distinct : offset ≠ stored) :
    (engine.releaseOld stored).policy.lookup offset = engine.policy.lookup offset := by
  unfold releaseOld
  split
  · rfl
  · rw [policy_freeOn, lookup_untrack, if_neg distinct]

/-- Invalidating an offset drops its page from the policy, and no other. -/
theorem lookup_invalidatePage (engine : Engine Backend) (offset other : UInt64) :
    (invalidatePage engine offset).2.policy.lookup other =
      if other = offset then none else engine.policy.lookup other := by
  unfold invalidatePage
  cases listed : engine.policy.lookup offset with
  | none =>
      by_cases same : other = offset
      · rw [if_pos same, same]
        exact listed
      · rw [if_neg same]
  | some entry =>
      have policy := policy_freeOn (engine.untrack offset) entry.backendId entry.handle
      rw [← lookup_untrack, ← policy]
      simp only
      cases (engine.untrack offset).freeOn entry.backendId entry.handle with
      | mk result after => rcases result with _ | _ | _ <;> rfl

theorem moves_releaseOld (engine : Engine Backend) (offset : UInt64) :
    Moves request engine (engine.releaseOld offset) := by
  unfold releaseOld
  cases listed : engine.policy.lookup offset with
  | none => exact .refl
  | some old => exact .single (.dropped offset old listed)

theorem moves_tryEvictFrom (env : CallEnv) (ids : List UInt8) (engine : Engine Backend) :
    Moves request engine (tryEvictFrom env ids engine).2 := by
  induction ids generalizing engine with
  | nil => exact .refl
  | cons id rest ih =>
      simp only [tryEvictFrom]
      cases selected : engine.policy.findEvictionCandidate env id with
      | none => exact ih engine
      | some offset =>
          rcases PolicyEngine.leastRecent_of_candidate selected with ⟨entry, least⟩
          have dropped : Move request engine _ := .dropped offset entry least.listed
          rw [least.onBackend] at dropped
          simp only [least.listed]
          revert dropped
          cases (engine.untrack offset).freeOn id entry.handle with
          | mk freed after =>
              intro dropped
              rcases freed with _ | _ | _
              · exact (Relation.ReflTransGen.single dropped).trans (ih after)
              · exact (Relation.ReflTransGen.single dropped).trans (ih after)
              · exact (Relation.ReflTransGen.single dropped).trans (.single (.counted _))

theorem moves_chooseTier (env : CallEnv) (engine : Engine Backend) :
    Moves request engine (engine.chooseTier env).2 := by
  unfold chooseTier
  split
  · exact .refl
  · have evicting : Moves request engine (engine.tryEvictOne env).2 :=
      moves_tryEvictFrom env engine.backends.keys engine
    revert evicting
    cases engine.tryEvictOne env with
    | mk victim after =>
        intro evicting
        cases victim with
        | none => exact evicting.trans (.single (.counted _))
        | some offset =>
            simp only
            split
            · exact evicting
            · exact evicting.trans (.single (.counted _))

omit [DuvmBackend Backend] in
theorem lookup_retouched {entry : PageMeta} (listed : engine.policy.lookup offset = some entry)
    (updated : PageMeta) (other : UInt64) :
    PolicyEngine.lookup ⟨engine.policy.pages.replace offset updated⟩ other =
      if other = offset then some updated else engine.policy.lookup other :=
  HashMap.lookup_replace_eq_ite (HashMap.mem_of_lookup_eq_some listed) other updated

omit [DuvmBackend Backend] in
/-- An entry changed in place was there before, for the same place. -/
theorem listed_of_retouched {other : UInt64} {entry updated found : PageMeta}
    (listed : engine.policy.lookup offset = some entry)
    (sameHandle : updated.handle = entry.handle)
    (sameBackend : updated.backendId = entry.backendId)
    (isFound : PolicyEngine.lookup ⟨engine.policy.pages.replace offset updated⟩ other =
      some found) :
    ∃ old, engine.policy.lookup other = some old ∧ old.handle = found.handle ∧
      old.backendId = found.backendId := by
  rcases HashMap.new_or_old listed isFound with ⟨rfl, rfl⟩ | ⟨_, wasListed⟩
  · exact ⟨entry, listed, sameHandle.symm, sameBackend.symm⟩
  · exact ⟨found, wasListed, rfl, rfl⟩

/-- Unless its page is requested, what is untracked stays so. -/
theorem untracked_of_moves (unasked : ∀ data, request ≠ some (offset, data))
    (untracked : engine.policy.lookup offset = none) (moves : Moves request engine next) :
    next.policy.lookup offset = none := by
  refine invariant_of_moves (fun engine => engine.policy.lookup offset = none) ?_ untracked moves
  intro current after absent move
  cases move with
  | counted stats => exact absent
  | dropped other entry listed =>
      rw [policy_freeOn, lookup_untrack]
      split
      · rfl
      · exact absent
  | retouched other entry updated listed _ _ =>
      rw [lookup_retouched listed]
      split
      · next same =>
          rw [← same, absent] at listed
          cases listed
      · exact absent
  | asked _ _ _ _ _ => exact absent
  | denied _ _ _ _ _ _ => exact absent
  | returned _ _ _ _ _ _ _ _ _ _ => exact absent
  | placed env tier id _ _ after handle other data isRequest _ _ _ _ =>
      have distinct : offset ≠ other := by
        rintro rfl
        exact unasked data isRequest
      rw [lookup_recordStore, if_neg distinct]
      exact absent

/-- One round of the loop over the candidates: the backend is not there, panics, denies a slot,
gets its slot back, or takes the page. -/
inductive Tried (env : CallEnv) (offset : UInt64) (data : PageBuffer) (tier : Tier) (id : UInt8)
    (rest : List UInt8) (lastErr : Option DuvmError) (engine : Engine Backend) :
    Outcome PageHandle × Engine Backend → Prop
  | absent (unknown : engine.backends.lookup id = none) :
      Tried env offset data tier id rest lastErr engine
        (storeOn env offset data tier rest lastErr engine)
  | panicked (backend after : Backend) (found : engine.backends.lookup id = some backend)
      (panics : DuvmBackend.allocPage backend = (.panic, after)) :
      Tried env offset data tier id rest lastErr engine (.panic, engine.setBackend id after)
  | denied (backend after : Backend) (error : DuvmError)
      (found : engine.backends.lookup id = some backend)
      (refused : DuvmBackend.allocPage backend = (.err error, after)) :
      Tried env offset data tier id rest lastErr engine
        (storeOn env offset data tier rest (some error) (engine.setBackend id after))
  | returned (backend issued failed : Backend) (handle : PageHandle) (error : DuvmError)
      (found : engine.backends.lookup id = some backend)
      (allocated : DuvmBackend.allocPage backend = (.ok handle, issued))
      (refused : DuvmBackend.storePage issued handle data = (.error error, failed)) :
      Tried env offset data tier id rest lastErr engine
        (storeOn env offset data tier rest (some error)
          (engine.setBackend id (DuvmBackend.freePage failed handle).2))
  | placed (backend issued after : Backend) (handle : PageHandle)
      (found : engine.backends.lookup id = some backend)
      (allocated : DuvmBackend.allocPage backend = (.ok handle, issued))
      (stored : DuvmBackend.storePage issued handle data = (.ok (), after)) :
      Tried env offset data tier id rest lastErr engine
        (.ok handle,
          { engine.setBackend id after with
            policy := engine.policy.recordStore env offset handle id tier
            stats := engine.stats.stored })

theorem tried (env : CallEnv) (offset : UInt64) (data : PageBuffer) (tier : Tier) (id : UInt8)
    (rest : List UInt8) (lastErr : Option DuvmError) (engine : Engine Backend) :
    Tried env offset data tier id rest lastErr engine
      (storeOn env offset data tier (id :: rest) lastErr engine) := by
  simp only [storeOn]
  cases found : engine.backends.lookup id with
  | none => exact .absent found
  | some backend =>
      simp only
      cases allocated : DuvmBackend.allocPage backend with
      | mk outcome issued =>
          cases outcome with
          | panic => exact .panicked backend issued found allocated
          | err error => exact .denied backend issued error found allocated
          | ok handle =>
              simp only
              cases stored : DuvmBackend.storePage issued handle data with
              | mk result after =>
                  cases result with
                  | error error =>
                      exact .returned backend issued after handle error found allocated stored
                  | ok done => exact .placed backend issued after handle found allocated stored

theorem moves_storeOn (env : CallEnv) (offset : UInt64) (data : PageBuffer) (tier : Tier)
    (ids : List UInt8) (lastErr : Option DuvmError) (engine : Engine Backend)
    (untracked : engine.policy.lookup offset = none)
    (running : (storeOn env offset data tier ids lastErr engine).1 ≠ .panic) :
    Moves (some (offset, data)) engine (storeOn env offset data tier ids lastErr engine).2 := by
  induction ids generalizing engine lastErr with
  | nil => exact .single (.counted _)
  | cons id rest ih =>
      have round := tried env offset data tier id rest lastErr engine
      generalize storeOn env offset data tier (id :: rest) lastErr engine = result
        at running round ⊢
      cases round with
      | absent unknown => exact ih lastErr engine untracked running
      | panicked backend after found panics => exact absurd rfl running
      | denied backend after error found refused =>
          have denied : Moves (some (offset, data)) engine _ :=
            .single (.denied id backend after error found refused)
          exact denied.trans (ih _ _ untracked running)
      | returned backend issued failed handle error found allocated refused =>
          have returned : Moves (some (offset, data)) engine _ :=
            .single (.returned id backend issued failed handle data error found allocated refused)
          exact returned.trans (ih _ _ untracked running)
      | placed backend issued after handle found allocated stored =>
          have placed : Moves (some (offset, data)) engine _ :=
            .single (.placed env tier id backend issued after handle offset data rfl untracked found
              allocated stored)
          exact placed.trans (.single (.counted _))

/-- A store brings back no other page. -/
theorem untracked_of_storeOn {env : CallEnv} {victim : UInt64} {data : PageBuffer} {tier : Tier}
    {ids : List UInt8} {handle : PageHandle} (untracked : engine.policy.lookup offset = none)
    (gone : engine.policy.lookup victim = none) (distinct : victim ≠ offset)
    (stored : storeOn env offset data tier ids none engine = (.ok handle, next)) :
    next.policy.lookup victim = none := by
  have placing : Moves (some (offset, data)) engine
      (storeOn env offset data tier ids none engine).2 :=
    moves_storeOn _ _ _ _ _ _ _ untracked (by simp [stored])
  rw [stored] at placing
  refine untracked_of_moves ?_ gone placing
  intro page same
  exact distinct (congrArg Prod.fst (Option.some.inj same)).symm

/-- A store, once the old page of its offset has been given up. -/
theorem moves_storePage (env : CallEnv) (engine : Engine Backend) (offset : UInt64)
    (data : PageBuffer) (running : (storePage env engine offset data).1 ≠ .panic) :
    Moves (some (offset, data)) (engine.releaseOld offset)
      (storePage env engine offset data).2 := by
  have evicted : Moves none _ _ := moves_chooseTier env (engine.releaseOld offset)
  have untracked := untracked_of_moves (fun _ => (Option.some_ne_none _).symm)
    (untracked_releaseOld engine offset) evicted
  have chosen : Moves (some (offset, data)) (engine.releaseOld offset)
      ((engine.releaseOld offset).chooseTier env).2 := moves_chooseTier env _
  unfold storePage at running ⊢
  revert untracked chosen running
  cases (engine.releaseOld offset).chooseTier env with
  | mk tier roomy =>
      intro running untracked chosen
      cases tier with
      | error error => exact chosen
      | ok tier => exact chosen.trans (moves_storeOn _ _ _ _ _ _ _ untracked running)

theorem moves_of_retouched {policy : PolicyEngine}
    (retouched : engine.policy.Retouched policy) : Moves request engine { engine with policy } := by
  cases retouched with
  | untouched => exact .refl
  | replaced offset entry updated listed sameHandle sameBackend =>
      exact .single (.retouched offset entry updated listed sameHandle sameBackend)

theorem moves_loadPage (env : CallEnv) (engine : Engine Backend) (offset : UInt64) :
    Moves request engine (loadPage env engine offset).2 := by
  unfold loadPage
  cases listed : engine.policy.lookup offset with
  | none => exact .single (.counted _)
  | some entry =>
      simp only
      cases found : engine.backends.lookup entry.backendId with
      | none => exact .single (.counted _)
      | some backend =>
          have asked : Move request engine _ := .asked offset entry backend listed found
          simp only
          revert asked
          cases DuvmBackend.loadPage backend entry.handle with
          | mk result after =>
              intro asked
              cases result with
              | error error => exact (Relation.ReflTransGen.single asked).tail (.counted _)
              | ok data =>
                  exact ((Relation.ReflTransGen.single asked).trans
                    (moves_of_retouched
                      (PolicyEngine.retouched_recordLoad _ env offset))).tail (.counted _)

theorem moves_invalidatePage (engine : Engine Backend) (offset : UInt64) :
    Moves request engine (invalidatePage engine offset).2 := by
  unfold invalidatePage
  cases listed : engine.policy.lookup offset with
  | none => exact .refl
  | some entry =>
      have dropped : Move request engine _ := .dropped offset entry listed
      simp only
      revert dropped
      cases (engine.untrack offset).freeOn entry.backendId entry.handle with
      | mk freed after =>
          intro dropped
          rcases freed with _ | _ | _
          · exact (Relation.ReflTransGen.single dropped).tail (.counted _)
          · exact .single dropped
          · exact (Relation.ReflTransGen.single dropped).tail (.counted _)

end Engine

namespace Session

open Engine (Move Moves)

variable {Backend : Type u} [DuvmBackend Backend] {session next : Session Backend}

/-- The page which a call asks to be placed. -/
def requested : Call → Option (UInt64 × PageBuffer)
  | .store offset data => some (offset, data)
  | _ => none

/-- What a call does: the old page of the offset is given up if a page is to be placed there, the
moves of the call are made, and the call is recorded. -/
structure Advances (session : Session Backend) (call : Call) (cleared : Engine Backend)
    (event : Event) (next : Session Backend) : Prop where
  clears : Moves none session.engine cleared
  untracked : ∀ offset data, requested call = some (offset, data) →
    cleared.policy.lookup offset = none
  moves : Moves (requested call) cleared next.engine
  recorded : next.log = session.log ++ [event]
  called : event.call = call

theorem advances_of_moves {engine : Engine Backend} (moves : Moves none session.engine engine)
    {call : Call} (unasked : requested call = none) (reply : Reply) (evicted : Option UInt64) :
    ∃ cleared event, session.Advances call cleared event
      (session.record engine ⟨call, reply, evicted⟩) := by
  refine ⟨session.engine, _, .refl, ?_, unasked ▸ moves, rfl, rfl⟩
  intro offset data asked
  rw [unasked] at asked
  cases asked

/-- A store clears its offset before anything else. -/
theorem advances_of_storePage {env : CallEnv} {offset : UInt64} {data : PageBuffer}
    {outcome : Outcome PageHandle} {engine : Engine Backend}
    (result : session.engine.storePage env offset data = (outcome, engine))
    (ended : outcome ≠ .panic) (reply : Reply) (evicted : Option UInt64) :
    ∃ cleared event, session.Advances (.store offset data) cleared event
      (session.record engine ⟨.store offset data, reply, evicted⟩) := by
  have moves := Engine.moves_storePage env session.engine offset data
  rw [result] at moves
  refine ⟨session.engine.releaseOld offset, _, Engine.moves_releaseOld session.engine offset, ?_,
    moves ended, rfl, rfl⟩
  intro placed page asked
  cases asked
  exact Engine.untracked_releaseOld session.engine _

theorem advances_of_step {env : CallEnv} {call : Call}
    (stepped : session.step (env, call) = some next) :
    ∃ cleared event, session.Advances call cleared event next := by
  cases called_of_step stepped with
  | stored result => exact advances_of_storePage result (by simp) _ _
  | refused result => exact advances_of_storePage result (by simp) _ _
  | @loaded _ offset data engine result =>
      have moves : Moves none session.engine _ := Engine.moves_loadPage env session.engine offset
      rw [result] at moves
      exact advances_of_moves moves rfl _ _
  | @missed _ offset error engine result =>
      have moves : Moves none session.engine _ := Engine.moves_loadPage env session.engine offset
      rw [result] at moves
      exact advances_of_moves moves rfl _ _
  | @invalidated _ offset engine result =>
      have moves : Moves none session.engine _ := Engine.moves_invalidatePage session.engine offset
      rw [result] at moves
      exact advances_of_moves moves rfl _ _
  | @retained _ offset error engine result =>
      have moves : Moves none session.engine _ := Engine.moves_invalidatePage session.engine offset
      rw [result] at moves
      exact advances_of_moves moves rfl _ _
  | @flagged _ offset flag =>
      exact advances_of_moves (Engine.moves_of_retouched
        (PolicyEngine.retouched_setFlag session.engine.policy offset flag)) rfl _ _
  | @unflagged _ offset flag =>
      exact advances_of_moves (Engine.moves_of_retouched
        (PolicyEngine.retouched_clearFlag session.engine.policy offset flag)) rfl _ _

/-- What every move preserves holds in every state of a session. -/
theorem invariant_of_run (Holds : Engine Backend → Prop)
    (preserved : ∀ request current after, Holds current → Move request current after → Holds after)
    {actions : List (CallEnv × Call)} (start : Holds session.engine)
    (reached : Transition.run step session actions = some next) : Holds next.engine := by
  refine @Transition.run_invariant _ _ step (fun session => Holds session.engine) session next
    actions start ?_ reached
  rintro current ⟨env, call⟩ after holds stepped
  rcases advances_of_step stepped with ⟨cleared, event, advances⟩
  have clearing := Engine.invariant_of_moves Holds (preserved _) holds advances.clears
  exact Engine.invariant_of_moves Holds (preserved _) clearing advances.moves

end Session

end Duvm.Daemon
