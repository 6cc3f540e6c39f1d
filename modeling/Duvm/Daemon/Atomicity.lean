import Duvm.Daemon.Eviction

/-!
# Stores which fail

Over backends whose calls may fail, what a `store_page` which returns an error leaves of
the pages which were there before: the old page of its offset is gone, and so are the
pages taken to make room. If there were none, nothing has been disturbed.
-/

namespace Duvm.Daemon

universe u

namespace Engine

section Policy

variable {Backend : Type u} [DuvmBackend Backend]

variable {engine : Engine Backend} {env : CallEnv}

theorem policy_chooseTier_of_full (full : PolicyEngine.selectTier engine.backendCapacities = none) :
    (engine.chooseTier env).2.policy = (engine.tryEvictOne env).2.policy := by
  unfold chooseTier
  rw [full]
  simp only
  cases engine.tryEvictOne env with
  | mk victim after =>
      cases victim with
      | none => rfl
      | some victim =>
          simp only
          split
          · rfl
          · rfl

/-- Nothing is taken to make room: a backend has some, or there is no page to take. -/
def TakesNothing (env : CallEnv) (engine : Engine Backend) : Prop :=
  PolicyEngine.selectTier engine.backendCapacities ≠ none ∨
    ∀ id ∈ engine.backends.keys, engine.policy.findEvictionCandidate env id = none

/-- With nothing taken, the choice of a tier changes no more than a counter. -/
theorem TakesNothing.chooseTier (untouched : engine.TakesNothing env) :
    ∃ stats, (engine.chooseTier env).2 = { engine with stats } := by
  unfold Engine.chooseTier
  cases selected : PolicyEngine.selectTier engine.backendCapacities with
  | some tier => exact ⟨engine.stats, rfl⟩
  | none =>
      have noCandidate := untouched.resolve_left fun different => different selected
      rw [tryEvictOne, tryEvictFrom_of_no_candidate noCandidate]
      exact ⟨_, rfl⟩

/-- Otherwise some page is gone once a tier has been chosen. -/
theorem exists_taken (takes : ¬engine.TakesNothing env) :
    ∃ victim entry, engine.policy.lookup victim = some entry ∧
      (engine.chooseTier env).2.policy.lookup victim = none := by
  rcases not_or.mp takes with ⟨full, candidates⟩
  rw [policy_chooseTier_of_full (not_not.mp full)]
  rw [← firstCandidate_eq_none_iff] at candidates
  rcases Option.ne_none_iff_exists'.mp candidates with ⟨id, first⟩
  rcases tryEvictFrom_of_candidate engine.backends.keys_nodup first with
    ⟨victim, entry, _, least, gone, _⟩
  exact ⟨victim, entry, least.listed, gone⟩

end Policy

variable {Backend : Type u} [FallibleBackend Backend]

/-- Every tracked page is in its slot, and no two are in the same. -/
structure Backed (engine : Engine Backend) : Prop where
  valid : ∀ {id : UInt8} {backend : Backend}, engine.backends.lookup id = some backend →
    FallibleBackend.Valid backend
  live : ∀ {offset : UInt64} {entry : PageMeta}, engine.policy.lookup offset = some entry →
    ∃ backend, engine.backends.lookup entry.backendId = some backend ∧
      FallibleBackend.Live backend entry.handle.offset
  distinct : ∀ {left right : UInt64} {first second : PageMeta},
    engine.policy.lookup left = some first → engine.policy.lookup right = some second →
    first.backendId = second.backendId → first.handle.offset = second.handle.offset →
    left = right

variable {backend after : Backend} {engine next : Engine Backend} {data : PageBuffer}
  {env : CallEnv} {error : DuvmError} {offset : UInt64}

variable {id : UInt8}

/-- A backend is asked for something which leaves the tracked pages alone. -/
theorem Backed.spared {Touched : UInt64 → Prop} (backed : engine.Backed)
    (found : engine.backends.lookup id = some backend)
    (spares : Spares FallibleBackend.Valid FallibleBackend.Live backend after Touched)
    (backends : next.backends = engine.backends.replace id after)
    (policy : ∀ {offset entry}, next.policy.lookup offset = some entry →
      engine.policy.lookup offset = some entry ∧
        (entry.backendId = id → ¬Touched entry.handle.offset)) : next.Backed := by
  have lookup : ∀ other, next.backends.lookup other =
      if other = id then some after else engine.backends.lookup other := by
    intro other
    rw [backends]
    exact lookup_setBackend found other after
  refine ⟨?_, ?_, ?_⟩
  · intro other current isCurrent
    rw [lookup] at isCurrent
    split at isCurrent
    · cases isCurrent
      exact spares.valid
    · exact backed.valid isCurrent
  · intro offset entry listed
    rcases policy listed with ⟨wasListed, untouched⟩
    rcases backed.live wasListed with ⟨holder, isHolder, live⟩
    by_cases same : entry.backendId = id
    · rw [same, found] at isHolder
      cases isHolder
      exact ⟨after, by rw [lookup, if_pos same], spares.live _ (untouched same) live⟩
    · exact ⟨holder, by rw [lookup, if_neg same]; exact isHolder, live⟩
  · intro left right first second leftListed rightListed
    exact backed.distinct (policy leftListed).1 (policy rightListed).1

/-- A backend is asked for something which leaves all its pages alone. -/
theorem Backed.setBackend (backed : engine.Backed)
    (found : engine.backends.lookup id = some backend)
    (spares : Spares FallibleBackend.Valid FallibleBackend.Live backend after fun _ => False) :
    (engine.setBackend id after).Backed :=
  backed.spared found spares rfl fun isListed => ⟨isListed, fun _ none => none⟩

/-- A page is put in a slot which no tracked page has. -/
theorem Backed.placed (backed : engine.Backed) {issued : Backend} {handle : PageHandle}
    (found : engine.backends.lookup id = some backend)
    (allocated : DuvmBackend.allocPage backend = (.ok handle, issued))
    (stored : DuvmBackend.storePage issued handle data = (.ok (), after)) (env : CallEnv)
    (tier : Tier) (offset : UInt64) :
    Backed { engine.setBackend id after with
      policy := engine.policy.recordStore env offset handle id tier } := by
  rcases FallibleBackend.placed (backed.valid found) allocated stored with ⟨free, live, spares⟩
  have spared := backed.setBackend found spares
  have isAfter : (engine.setBackend id after).backends.lookup id = some after := by
    rw [lookup_setBackend found, if_pos rfl]
  have elsewhere : ∀ {other second}, engine.policy.lookup other = some second →
      second.backendId = id → second.handle.offset ≠ handle.offset := by
    intro other second listed sameBackend sameSlot
    rcases backed.live listed with ⟨holder, isHolder, isLive⟩
    rw [sameBackend, found] at isHolder
    cases isHolder
    exact free (sameSlot ▸ isLive)
  refine ⟨spared.valid, ?_, ?_⟩
  · intro other second listed
    rw [lookup_recordStore] at listed
    split at listed
    · cases listed
      exact ⟨after, isAfter, live⟩
    · exact spared.live listed
  · intro left right first second leftListed rightListed sameBackend sameSlot
    rw [lookup_recordStore] at leftListed rightListed
    split at leftListed
    · next isLeft =>
        split at rightListed
        · next isRight => rw [isLeft, isRight]
        · cases leftListed
          exact absurd sameSlot.symm (elsewhere rightListed sameBackend.symm)
    · split at rightListed
      · cases rightListed
        exact absurd sameSlot (elsewhere leftListed sameBackend)
      · exact backed.distinct leftListed rightListed sameBackend sameSlot

theorem Backed.move {request : Option (UInt64 × PageBuffer)} (backed : engine.Backed)
    (move : Move request engine next) : next.Backed := by
  cases move with
  | counted stats => exact ⟨backed.valid, backed.live, backed.distinct⟩
  | dropped offset entry listed =>
      rcases backed.live listed with ⟨backend, found, _⟩
      have spares := FallibleBackend.freed entry.handle (backed.valid found)
      refine backed.spared found spares ?_ ?_
      · simp only [freeOn, untrack, found, Engine.setBackend]
      · intro other second isListed
        rw [policy_freeOn] at isListed
        rcases listed_of_untrack isListed with ⟨distinct, wasListed⟩
        refine ⟨wasListed, ?_⟩
        intro sameBackend sameSlot
        exact distinct (backed.distinct wasListed listed sameBackend sameSlot)
  | retouched offset entry updated listed sameHandle sameBackend =>
      refine ⟨backed.valid, ?_, ?_⟩
      · intro other found isFound
        rcases listed_of_retouched listed sameHandle sameBackend isFound with
          ⟨before, wasListed, handle, id⟩
        rw [← handle, ← id]
        exact backed.live wasListed
      · intro left right first second leftListed rightListed equalBackend equalSlot
        rcases listed_of_retouched listed sameHandle sameBackend leftListed with
          ⟨leftOld, leftWas, leftHandle, leftId⟩
        rcases listed_of_retouched listed sameHandle sameBackend rightListed with
          ⟨rightOld, rightWas, rightHandle, rightId⟩
        apply backed.distinct leftWas rightWas
        · rw [leftId, rightId, equalBackend]
        · rw [leftHandle, rightHandle, equalSlot]
  | asked offset entry backend listed found =>
      exact backed.setBackend found (FallibleBackend.asked entry.handle (backed.valid found))
  | denied id backend after error found refused =>
      exact backed.setBackend found (FallibleBackend.denied (backed.valid found) refused)
  | returned id backend issued failed handle data error found allocated refused =>
      exact backed.setBackend found
        (FallibleBackend.returned (backed.valid found) allocated refused)
  | placed env tier id backend issued after handle offset data _ _ found allocated stored =>
      exact backed.placed found allocated stored env tier offset

/-- The same pages are tracked, and loading each of them comes to the same. -/
structure Undisturbed (engine next : Engine Backend) : Prop where
  policy : ∀ offset, next.policy.lookup offset = engine.policy.lookup offset
  loads : ∀ env offset, (next.loadPage env offset).1 = (engine.loadPage env offset).1

theorem Undisturbed.trans {first second third : Engine Backend}
    (earlier : first.Undisturbed second) (later : second.Undisturbed third) :
    first.Undisturbed third where
  policy := fun offset => (later.policy offset).trans (earlier.policy offset)
  loads := fun env offset => (later.loads env offset).trans (earlier.loads env offset)

omit [FallibleBackend Backend] in
theorem fst_loadPage [DuvmBackend Backend] (env : CallEnv) (engine : Engine Backend)
    (offset : UInt64) :
    (engine.loadPage env offset).1 =
      match engine.policy.lookup offset with
      | none => .error (.offsetNotFound offset)
      | some entry =>
          match engine.backends.lookup entry.backendId with
          | none => .error (.backendNotFound entry.backendId)
          | some backend => (DuvmBackend.loadPage backend entry.handle).1 := by
  unfold loadPage
  cases engine.policy.lookup offset with
  | none => rfl
  | some entry =>
      simp only
      cases engine.backends.lookup entry.backendId with
      | none => rfl
      | some backend =>
          simp only
          cases DuvmBackend.loadPage backend entry.handle with
          | mk result after =>
              cases result with
              | error error => rfl
              | ok data => rfl

theorem undisturbed_of_eq (backends : next.backends = engine.backends)
    (policy : next.policy = engine.policy) :
    engine.Undisturbed next where
  policy := fun offset => by rw [policy]
  loads := fun env offset => by rw [fst_loadPage, fst_loadPage, backends, policy]

/-- A backend is asked for something which leaves its pages alone. -/
theorem Backed.undisturbed (backed : engine.Backed)
    (found : engine.backends.lookup id = some backend)
    (spares : Spares FallibleBackend.Valid FallibleBackend.Live backend after fun _ => False) :
    engine.Undisturbed (engine.setBackend id after) := by
  refine ⟨fun _ => rfl, ?_⟩
  intro env offset
  have samePolicy : (engine.setBackend id after).policy = engine.policy := rfl
  rw [fst_loadPage, fst_loadPage, samePolicy]
  cases listed : engine.policy.lookup offset with
  | none => rfl
  | some entry =>
      rcases backed.live listed with ⟨holder, isHolder, live⟩
      simp only [lookup_setBackend found]
      by_cases same : entry.backendId = id
      · rw [same, found] at isHolder
        cases isHolder
        rw [if_pos same, same, found]
        exact spares.loads entry.handle (fun none => none) live
      · rw [if_neg same]

/-- The loop over the candidates, when no backend takes the page. -/
theorem Backed.storeOn {tier : Tier} {ids : List UInt8} {lastErr : Option DuvmError}
    (backed : engine.Backed)
    (failed : Engine.storeOn env offset data tier ids lastErr engine = (.err error, next)) :
    engine.Undisturbed next := by
  induction ids generalizing engine lastErr with
  | nil =>
      cases failed
      exact undisturbed_of_eq rfl rfl
  | cons id rest ih =>
      have round := tried env offset data tier id rest lastErr engine
      rw [failed] at round
      generalize result : ((.err error, next) : Outcome PageHandle × Engine Backend) = ended
        at round
      cases round with
      | absent unknown => exact ih backed result.symm
      | panicked backend after found panics => cases result
      | denied backend after reason found refused =>
          have spares := FallibleBackend.denied (backed.valid found) refused
          have rest := ih (backed.setBackend found spares) result.symm
          exact (backed.undisturbed found spares).trans rest
      | returned backend issued refusing handle reason found allocated refused =>
          have spares := FallibleBackend.returned (backed.valid found) allocated refused
          have rest := ih (backed.setBackend found spares) result.symm
          exact (backed.undisturbed found spares).trans rest
      | placed backend issued after handle found allocated stored => cases result

/-- A store which fails has lost the old page of its offset and the pages taken for room. -/
theorem Backed.storePage (backed : engine.Backed)
    (failed : engine.storePage env offset data = (.err error, next)) :
    ((engine.releaseOld offset).chooseTier env).2.Undisturbed next := by
  have chosen : ((engine.releaseOld offset).chooseTier env).2.Backed := by
    have moves : Moves none engine ((engine.releaseOld offset).chooseTier env).2 :=
      (moves_releaseOld engine offset).trans (moves_chooseTier env _)
    exact invariant_of_moves Backed (fun _ _ current move => current.move move) backed moves
  unfold Engine.storePage at failed
  revert chosen failed
  cases (engine.releaseOld offset).chooseTier env with
  | mk result after =>
      intro failed chosen
      cases result with
      | error reason =>
          cases failed
          exact undisturbed_of_eq rfl rfl
      | ok tier => exact chosen.storeOn failed

/-- A store which fails disturbs nothing if and only if there was no page to lose. -/
theorem Backed.undisturbed_iff (backed : engine.Backed)
    (failed : engine.storePage env offset data = (.err error, next)) :
    engine.Undisturbed next ↔ engine.policy.lookup offset = none ∧ engine.TakesNothing env := by
  have later := backed.storePage failed
  constructor
  · intro undisturbed
    have moves : Moves none _ _ := moves_chooseTier env (engine.releaseOld offset)
    have gone := untracked_of_moves (fun _ => (Option.some_ne_none _).symm)
      (untracked_releaseOld engine offset) moves
    have untracked : engine.policy.lookup offset = none := by
      rw [← undisturbed.policy, later.policy, gone]
    refine ⟨untracked, ?_⟩
    by_contra takes
    rcases exists_taken takes with ⟨victim, entry, listed, lost⟩
    rw [← undisturbed.policy, later.policy, releaseOld_of_untracked untracked, lost] at listed
    cases listed
  · rintro ⟨untracked, untouched⟩
    rw [releaseOld_of_untracked untracked] at later
    rcases untouched.chooseTier with ⟨stats, unchanged⟩
    rw [unchanged] at later
    have counted : engine.Undisturbed { engine with stats } := undisturbed_of_eq rfl rfl
    exact counted.trans later

/-- In every reachable state, a store which fails leaves the tracked pages as they are if and
only if its offset has no page and no page is taken to make room: some backend has room, or
there is no page which could be taken. -/
theorem failed_store_undisturbed_iff {backends : HashMap UInt8 Backend}
    {session : Session Backend} {past : List (CallEnv × Call)}
    (valid : ∀ id backend, backends.lookup id = some backend → FallibleBackend.Valid backend)
    (reached : Transition.run Session.step (.start backends) past = some session)
    (failed : session.engine.storePage env offset data = (.err error, next)) :
    session.engine.Undisturbed next ↔
      session.engine.policy.lookup offset = none ∧
        (PolicyEngine.selectTier session.engine.backendCapacities ≠ none ∨
          ∀ id ∈ session.engine.backends.keys,
            session.engine.policy.findEvictionCandidate env id = none) := by
  have start : (Session.start backends).engine.Backed := by
    refine ⟨fun found => valid _ _ found, ?_, ?_⟩
    · intro offset entry listed
      cases listed
    · intro left right first second listed
      cases listed
  have backed := Session.invariant_of_run Backed (fun _ _ _ current move => current.move move)
    start reached
  exact backed.undisturbed_iff failed

theorem valid_flakyPage (pages : UInt64) (faults : List Bool) (id : UInt8)
    (backend : Flaky MemoryBackend) (found : (flakyPage pages faults).lookup id = some backend) :
    FallibleBackend.Valid backend := by
  simp only [flakyPage, HashMap.lookup_insert_eq_ite, AList.lookup_empty] at found
  split at found
  · rw [← Option.some.inj found]
    exact PageTable.valid_new 0 pages
  · simp at found

/-- A page is stored; its backend has no slot for another one. -/
theorem untracked_offset_left_alone :
    ∃ session next,
      Transition.run Session.step (.start (flakyPage 2 [false, false, true])) storeOne =
        some session ∧
      session.engine.storePage laterCall 2 (.filled 2) = (.err .io, next) ∧
      session.engine.Undisturbed next := by
  have ran : ∃ session next,
      Transition.run Session.step (.start (flakyPage 2 [false, false, true])) storeOne =
        some session ∧
      session.engine.storePage laterCall 2 (.filled 2) = (.err .io, next) ∧
      session.engine.policy.lookup 2 = none ∧
      PolicyEngine.selectTier session.engine.backendCapacities = some .compressed :=
    ⟨_, _, rfl, rfl, rfl, rfl⟩
  rcases ran with ⟨session, next, reached, failed, untracked, room⟩
  refine ⟨session, next, reached, failed, ?_⟩
  have conditions := failed_store_undisturbed_iff (valid_flakyPage 2 _) reached failed
  refine conditions.mpr ⟨untracked, Or.inl ?_⟩
  rw [room]
  exact Option.some_ne_none _

/-- A page is stored in the only slot. A second store of its offset fails, and so does a store
of another offset; after either one the page is lost. -/
theorem failed_store_loses_page :
    ∃ session replaced evicted,
      Transition.run Session.step (.start (flakyPage 1 [false, false, false, true])) storeOne =
        some session ∧
      (∀ env, (session.engine.loadPage env 1).1 = .ok (.filled 1)) ∧
      session.engine.storePage laterCall 1 (.filled 2) = (.err .io, replaced) ∧
      (∀ env, (replaced.loadPage env 1).1 = .error (.offsetNotFound 1)) ∧
      session.engine.storePage laterCall 2 (.filled 2) = (.err .io, evicted) ∧
      ∀ env, (evicted.loadPage env 1).1 = .error (.offsetNotFound 1) :=
  ⟨_, _, _, rfl, fun _ => rfl, rfl, fun _ => rfl, rfl, fun _ => rfl⟩

end Engine

end Duvm.Daemon
