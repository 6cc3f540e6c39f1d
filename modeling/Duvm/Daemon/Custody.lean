import Duvm.Backend.Custody
import Duvm.Daemon.Refinement
import Duvm.Daemon.Tiers

/-!
# The engine over custodians

An engine with any number of backends, some of which keep every page while others
lose them together with their server. Each page which the engine tracks is a
deposit with the backend which the policy names. The operations give up pages, and
a store makes a new deposit, after any number of attempts with other backends; it
asks only backends which were healthy when they were chosen, and each of them at
most once.

So the engine returns nothing but the page stored last, whatever it evicts, in
whichever order it falls back from one backend to the next, and whenever a server
is restarted.
-/

namespace Duvm.Daemon

open Function (update)

universe u v

/-- Whatever the engine returns for an offset is what the map holds there, as long as the engine
is still sound after the call. -/
structure Simulates {Env : Type u} {Engine : Type v} (model : EngineModel Env Engine)
    (Sound : Engine → Prop) (Holds : Engine → (UInt64 → Option PageBuffer) → Prop) : Prop where
  stored : ∀ {env engine map offset page handle next}, Holds engine map →
    model.storePage env engine offset page = (.ok handle, next) →
      Holds next (update map offset (some page)) ∧ (Sound next → Sound engine)
  refused : ∀ {env engine map offset page error next}, Holds engine map →
    model.storePage env engine offset page = (.err error, next) →
      Holds next map ∧ (Sound next → Sound engine)
  loaded : ∀ {env engine map offset page next}, Holds engine map →
    model.loadPage env engine offset = (.ok page, next) →
      Holds next map ∧ (Sound next → Sound engine ∧ map offset = some page)
  missed : ∀ {env engine map offset error next}, Holds engine map →
    model.loadPage env engine offset = (.error error, next) →
      Holds next map ∧ (Sound next → Sound engine)

/-- One more deposit with one of the backends, in place of the one under the same offset. -/
def entrust (deposits : UInt8 → UInt64 → Option Deposit) (id : UInt8) (offset : UInt64)
    (deposit : Deposit) : UInt8 → UInt64 → Option Deposit :=
  update deposits id (update (deposits id) offset (some deposit))

theorem entrust_self (deposits : UInt8 → UInt64 → Option Deposit) (id : UInt8) (offset : UInt64)
    (deposit : Deposit) :
    entrust deposits id offset deposit id = update (deposits id) offset (some deposit) :=
  Function.update_self _ _ _

theorem entrust_of_ne_id (deposits : UInt8 → UInt64 → Option Deposit) {id other : UInt8}
    (different : other ≠ id) (offset : UInt64) (deposit : Deposit) :
    entrust deposits id offset deposit other = deposits other :=
  Function.update_of_ne different _ _

theorem entrust_of_ne (deposits : UInt8 → UInt64 → Option Deposit) (id other : UInt8)
    {offset key : UInt64} (different : key ≠ offset) (deposit : Deposit) :
    entrust deposits id offset deposit other key = deposits other key := by
  by_cases same : other = id
  · rw [same, entrust_self, Function.update_of_ne different]
  · rw [entrust_of_ne_id _ same]

namespace Engine

variable {Backend : Type u} [CustodyBackend Backend] {engine next : Engine Backend}
  {deposits : UInt8 → UInt64 → Option Deposit} {map : UInt64 → Option PageBuffer}

/-- The backends keep the deposits, and every tracked page is one: under its handle, with its
backend, and it is the page of the map. -/
structure Backs (engine : Engine Backend) (deposits : UInt8 → UInt64 → Option Deposit)
    (map : UInt64 → Option PageBuffer) : Prop where
  keeps : ∀ {id backend}, engine.backends.lookup id = some backend →
    CustodyBackend.Keeps backend (deposits id)
  backed : ∀ {offset entry}, engine.policy.lookup offset = some entry →
    ∃ deposit, deposits entry.backendId offset = some deposit ∧
      deposit.slot = entry.handle.offset ∧ map offset = some deposit.data

/-- No backend is worn out. -/
def Fit (engine : Engine Backend) : Prop :=
  ∀ id backend, engine.backends.lookup id = some backend → CustodyBackend.Fit backend

/-- The deposits are still kept, and none of the backends got fit again. -/
structure Narrowed (engine next : Engine Backend) (deposits : UInt8 → UInt64 → Option Deposit)
    (map : UInt64 → Option PageBuffer) : Prop where
  backs : next.Backs deposits map
  fit : next.Fit → engine.Fit

theorem Backs.narrowed (backs : engine.Backs deposits map) :
    engine.Narrowed engine deposits map :=
  ⟨backs, fun fit => fit⟩

theorem Narrowed.trans {middle : Engine Backend} (later : middle.Narrowed next deposits map)
    (earlier : engine.Narrowed middle deposits map) : engine.Narrowed next deposits map :=
  ⟨later.backs, fun fit => earlier.fit (later.fit fit)⟩

theorem fit_of_setBackend {id : UInt8} {before after : Backend}
    (found : engine.backends.lookup id = some before)
    (worn : CustodyBackend.Fit after → CustodyBackend.Fit before)
    (fit : (engine.setBackend id after).Fit) : engine.Fit := by
  intro other backend isFound
  by_cases same : other = id
  · subst same
    rw [← Option.some.inj (found.symm.trans isFound)]
    apply worn
    apply fit other
    rw [lookup_setBackend found, if_pos rfl]
  · apply fit other
    rw [lookup_setBackend found, if_neg same]
    exact isFound

/-- The backend still keeps what it has. -/
theorem Backs.setBackend (backs : engine.Backs deposits map) {id : UInt8}
    {before after : Backend} (found : engine.backends.lookup id = some before)
    (keeps : CustodyBackend.Keeps after (deposits id))
    (worn : CustodyBackend.Fit after → CustodyBackend.Fit before) :
    engine.Narrowed (engine.setBackend id after) deposits map := by
  refine ⟨⟨?_, backs.backed⟩, fit_of_setBackend found worn⟩
  intro other backend isFound
  rw [lookup_setBackend found] at isFound
  split at isFound
  · next same =>
      rw [same, ← Option.some.inj isFound]
      exact keeps
  · exact backs.keeps isFound

theorem Backs.freeOn (backs : engine.Backs deposits map) (id : UInt8) (handle : PageHandle) :
    engine.Narrowed (engine.freeOn id handle).2 deposits map := by
  unfold Engine.freeOn
  cases found : engine.backends.lookup id with
  | none => exact backs.narrowed
  | some backend =>
      rcases CustodyBackend.free handle (backs.keeps found) with ⟨keeps, worn⟩
      exact backs.setBackend found keeps worn

theorem Backs.untrack (backs : engine.Backs deposits map) (offset : UInt64) :
    (engine.untrack offset).Backs deposits map :=
  ⟨backs.keeps, fun listed => backs.backed (listed_of_untrack listed).2⟩

/-- A page is given up and its slot is freed, or not. -/
theorem Backs.drop (backs : engine.Backs deposits map) (offset : UInt64) (id : UInt8)
    (handle : PageHandle) :
    engine.Narrowed ((engine.untrack offset).freeOn id handle).2 deposits map := by
  have freed := (backs.untrack offset).freeOn id handle
  exact ⟨freed.backs, freed.fit⟩

theorem Narrowed.counted (narrowed : engine.Narrowed next deposits map) (stats : DaemonStats) :
    engine.Narrowed { next with stats } deposits map :=
  ⟨⟨narrowed.backs.keeps, narrowed.backs.backed⟩, narrowed.fit⟩

theorem Backs.retouched (backs : engine.Backs deposits map) {policy : PolicyEngine}
    (retouched : engine.policy.Retouched policy) :
    engine.Narrowed { engine with policy } deposits map := by
  refine ⟨⟨backs.keeps, ?_⟩, fun fit => fit⟩
  intro offset entry listed
  cases retouched with
  | untouched => exact backs.backed listed
  | replaced touched old updated wasListed sameHandle sameBackend =>
      rcases listed_of_retouched wasListed sameHandle sameBackend listed with
        ⟨before, wasThere, isHandle, isBackend⟩
      rw [← isHandle, ← isBackend]
      exact backs.backed wasThere

/-- A page which is not tracked can be forgotten. -/
theorem Backs.forget (backs : engine.Backs deposits map) {offset : UInt64}
    (untracked : engine.policy.lookup offset = none) :
    engine.Backs deposits (update map offset none) := by
  refine ⟨backs.keeps, ?_⟩
  intro other entry listed
  have different : other ≠ offset := by
    rintro rfl
    cases untracked.symm.trans listed
  rw [Function.update_of_ne different]
  exact backs.backed listed

theorem Backs.releaseOld (backs : engine.Backs deposits map) (offset : UInt64) :
    engine.Narrowed (engine.releaseOld offset) deposits map := by
  unfold Engine.releaseOld
  cases engine.policy.lookup offset with
  | none => exact backs.narrowed
  | some old => exact backs.drop offset old.backendId old.handle

theorem Backs.tryEvictFrom (backs : engine.Backs deposits map) (env : CallEnv)
    (ids : List UInt8) :
    engine.Narrowed (Engine.tryEvictFrom env ids engine).2 deposits map := by
  induction ids generalizing engine with
  | nil => exact backs.narrowed
  | cons id rest ih =>
      simp only [Engine.tryEvictFrom]
      cases engine.policy.findEvictionCandidate env id with
      | none => exact ih backs
      | some victim =>
          simp only
          cases engine.policy.lookup victim with
          | none => exact ih backs
          | some entry =>
              have dropped := backs.drop victim id entry.handle
              simp only
              revert dropped
              cases (engine.untrack victim).freeOn id entry.handle with
              | mk freed after =>
                  intro dropped
                  rcases freed with _ | _ | _
                  · exact (ih dropped.backs).trans dropped
                  · exact (ih dropped.backs).trans dropped
                  · exact dropped.counted _

theorem Backs.chooseTier (backs : engine.Backs deposits map) (env : CallEnv) :
    engine.Narrowed (engine.chooseTier env).2 deposits map := by
  unfold Engine.chooseTier
  split
  · exact backs.narrowed
  · have evicting : engine.Narrowed (engine.tryEvictOne env).2 deposits map :=
      backs.tryEvictFrom env engine.backends.keys
    revert evicting
    cases engine.tryEvictOne env with
    | mk victim after =>
        intro evicting
        cases victim with
        | none => exact evicting.counted _
        | some offset =>
            simp only
            split
            · exact evicting
            · exact evicting.counted _

/-- The ways in which a store can end. -/
inductive Entrusted (engine : Engine Backend) (offset : UInt64) (data : PageBuffer)
    (map : UInt64 → Option PageBuffer) : Outcome PageHandle × Engine Backend → Prop
  | stored {handle : PageHandle} {next : Engine Backend}
      (deposits : UInt8 → UInt64 → Option Deposit)
      (narrowed : engine.Narrowed next deposits (update map offset (some data))) :
      Entrusted engine offset data map (.ok handle, next)
  | refused {error : DuvmError} {next : Engine Backend}
      (deposits : UInt8 → UInt64 → Option Deposit)
      (narrowed : engine.Narrowed next deposits map) :
      Entrusted engine offset data map (.err error, next)
  | panicked {next : Engine Backend} : Entrusted engine offset data map (.panic, next)

theorem Entrusted.trans {offset : UInt64} {data : PageBuffer} {middle : Engine Backend}
    {result : Outcome PageHandle × Engine Backend} (fit : middle.Fit → engine.Fit)
    (later : middle.Entrusted offset data map result) :
    engine.Entrusted offset data map result := by
  cases later with
  | stored deposits narrowed =>
      exact .stored deposits ⟨narrowed.backs, fun last => fit (narrowed.fit last)⟩
  | refused deposits narrowed =>
      exact .refused deposits ⟨narrowed.backs, fun last => fit (narrowed.fit last)⟩
  | panicked => exact .panicked

section Attempts

variable {offset : UInt64} {data : PageBuffer} {id : UInt8} {backend issued after : Backend}
  {handle : PageHandle}

/-- A deposit under an offset which is not tracked. -/
theorem Backs.entrust (backs : engine.Backs deposits map)
    (untracked : engine.policy.lookup offset = none)
    (found : engine.backends.lookup id = some backend)
    (keeps : CustodyBackend.Keeps after
      (update (deposits id) offset (some ⟨handle.offset, data⟩))) :
    (engine.setBackend id after).Backs
      (Daemon.entrust deposits id offset ⟨handle.offset, data⟩) map := by
  refine ⟨?_, ?_⟩
  · intro other held isFound
    rw [lookup_setBackend found] at isFound
    split at isFound
    · next same =>
        rw [same, entrust_self, ← Option.some.inj isFound]
        exact keeps
    · next different =>
        rw [entrust_of_ne_id _ different]
        exact backs.keeps isFound
  · intro key entry listed
    have different : key ≠ offset := by
      rintro rfl
      cases untracked.symm.trans listed
    rw [entrust_of_ne _ _ _ different]
    exact backs.backed listed

/-- The backend was asked for a slot and filled it, whether it succeeded or not. -/
theorem Backs.attempt (backs : engine.Backs deposits map)
    (found : engine.backends.lookup id = some backend)
    (healthy : DuvmBackend.isHealthy backend = true)
    (allocated : DuvmBackend.allocPage backend = (.ok handle, issued))
    {result : Except DuvmError Unit}
    (stored : DuvmBackend.storePage issued handle data = (result, after)) (offset : UInt64) :
    CustodyBackend.Keeps after (update (deposits id) offset (some ⟨handle.offset, data⟩)) ∧
      (CustodyBackend.Fit after → CustodyBackend.Fit backend) := by
  rcases CustodyBackend.alloc offset data (backs.keeps found) healthy with ⟨given, _, worn⟩
  rw [allocated] at given worn
  rcases given handle rfl with ⟨ready, keeps⟩
  rcases CustodyBackend.store keeps ready (Function.update_self _ _ _) with ⟨kept, wornAfter⟩
  rw [stored] at kept wornAfter
  exact ⟨kept, fun fit => worn (wornAfter fit)⟩

/-- The page is recorded once it is a deposit. -/
theorem Backs.recorded (backs : engine.Backs deposits map)
    (deposited : deposits id offset = some ⟨handle.offset, data⟩) (env : CallEnv) (tier : Tier)
    (stats : DaemonStats) :
    Backs { engine with policy := engine.policy.recordStore env offset handle id tier, stats }
      deposits (update map offset (some data)) := by
  refine ⟨backs.keeps, ?_⟩
  intro key entry listed
  rw [lookup_recordStore] at listed
  split at listed
  · next same =>
      subst same
      rw [← Option.some.inj listed]
      exact ⟨_, deposited, rfl, Function.update_self _ _ _⟩
  · next different =>
      rw [Function.update_of_ne different]
      exact backs.backed listed

end Attempts

theorem Backs.storeOn {ids : List UInt8} (backs : engine.Backs deposits map) {offset : UInt64}
    (untracked : engine.policy.lookup offset = none) (distinct : ids.Nodup)
    (healthy : ∀ id ∈ ids, ∀ backend, engine.backends.lookup id = some backend →
      DuvmBackend.isHealthy backend = true)
    (env : CallEnv) (data : PageBuffer) (tier : Tier) (lastErr : Option DuvmError) :
    engine.Entrusted offset data map
      (Engine.storeOn env offset data tier ids lastErr engine) := by
  induction ids generalizing engine deposits lastErr with
  | nil => exact .refused deposits (backs.narrowed.counted _)
  | cons id rest ih =>
      rcases List.nodup_cons.mp distinct with ⟨notAgain, restDistinct⟩
      -- the candidates left over are not the one which was asked
      have stillHealthy : ∀ {backend after : Backend},
          engine.backends.lookup id = some backend → ∀ other ∈ rest, ∀ held,
          (engine.setBackend id after).backends.lookup other = some held →
            DuvmBackend.isHealthy held = true := by
        intro backend after found other listed held isHeld
        have different : other ≠ id := by
          rintro rfl
          exact notAgain listed
        rw [lookup_setBackend found, if_neg different] at isHeld
        exact healthy other (List.mem_cons_of_mem _ listed) held isHeld
      have round := tried env offset data tier id rest lastErr engine
      generalize Engine.storeOn env offset data tier (id :: rest) lastErr engine = result
        at round ⊢
      cases round with
      | absent unknown =>
          apply ih backs untracked restDistinct
          intro other listed
          exact healthy other (List.mem_cons_of_mem _ listed)
      | panicked backend after found panics => exact .panicked
      | denied backend after error found refused =>
          have isHealthy := healthy id (List.mem_cons_self ..) backend found
          rcases CustodyBackend.alloc offset data (backs.keeps found) isHealthy with
            ⟨_, kept, worn⟩
          rw [refused] at kept worn
          have narrowed := backs.setBackend found (kept error rfl) worn
          exact (ih narrowed.backs untracked restDistinct (stillHealthy found) _).trans
            narrowed.fit
      | returned backend issued failed handle error found allocated refused =>
          have isHealthy := healthy id (List.mem_cons_self ..) backend found
          rcases backs.attempt found isHealthy allocated refused offset with ⟨kept, worn⟩
          rcases CustodyBackend.free handle kept with ⟨keeps, wornAfter⟩
          have attempted := backs.entrust untracked found keeps
          refine (ih attempted untracked restDistinct (stillHealthy found) _).trans ?_
          exact fit_of_setBackend found fun fit => worn (wornAfter fit)
      | placed backend issued after handle found allocated stored =>
          have isHealthy := healthy id (List.mem_cons_self ..) backend found
          rcases backs.attempt found isHealthy allocated stored offset with ⟨kept, worn⟩
          have deposited : Daemon.entrust deposits id offset ⟨handle.offset, data⟩ id offset =
              some ⟨handle.offset, data⟩ := by
            rw [entrust_self, Function.update_self]
          exact .stored _ ⟨(backs.entrust untracked found kept).recorded deposited env tier _,
            fit_of_setBackend found worn⟩

/-- A store ends with its page as a deposit, with one of the backends, or with an error. -/
theorem Backs.storePage (backs : engine.Backs deposits map) (env : CallEnv) (offset : UInt64)
    (data : PageBuffer) :
    engine.Entrusted offset data map (Engine.storePage env engine offset data) := by
  have released := backs.releaseOld offset
  have evicted := released.backs.chooseTier env
  have untracked := untracked_of_moves (fun _ => (Option.some_ne_none _).symm)
    (untracked_releaseOld engine offset) (moves_chooseTier env (engine.releaseOld offset))
  unfold Engine.storePage
  revert evicted untracked
  cases chosen : (engine.releaseOld offset).chooseTier env with
  | mk tier roomy =>
      intro evicted untracked
      cases tier with
      | error error => exact .refused deposits (evicted.trans released)
      | ok tier =>
          have roomyIn := (selectTier_eq_some_iff.mp (selected_of_chooseTier chosen)).1
          have ranking : roomy.Ranking utilization tier (roomy.tierBackendCandidates tier) :=
            ranking_candidatesBy roomyIn
          refine (evicted.backs.storeOn untracked ranking.distinct ?_ env data tier none).trans
            (evicted.trans released).fit
          intro id listed backend found
          rcases (ranking.exactly id).mp listed with ⟨candidate, isFound, _, room⟩
          rw [← Option.some.inj (isFound.symm.trans found)]
          exact (Bool.and_eq_true_iff.mp room).1

theorem Backs.invalidatePage (backs : engine.Backs deposits map) (offset : UInt64) :
    engine.Narrowed (Engine.invalidatePage engine offset).2 deposits map := by
  unfold Engine.invalidatePage
  cases engine.policy.lookup offset with
  | none => exact backs.narrowed
  | some entry =>
      have dropped := backs.drop offset entry.backendId entry.handle
      simp only
      revert dropped
      cases (engine.untrack offset).freeOn entry.backendId entry.handle with
      | mk freed after =>
          intro dropped
          rcases freed with _ | _ | _
          · exact dropped.counted _
          · exact dropped
          · exact dropped.counted _

theorem Backs.loadPage (backs : engine.Backs deposits map) (env : CallEnv) (offset : UInt64) :
    engine.Narrowed (Engine.loadPage env engine offset).2 deposits map ∧
      ∀ data, (Engine.loadPage env engine offset).1 = .ok data →
        (Engine.loadPage env engine offset).2.Fit → map offset = some data := by
  unfold Engine.loadPage
  cases listed : engine.policy.lookup offset with
  | none => exact ⟨backs.narrowed.counted _, by simp⟩
  | some entry =>
      simp only
      cases found : engine.backends.lookup entry.backendId with
      | none => exact ⟨backs.narrowed.counted _, by simp⟩
      | some backend =>
          rcases CustodyBackend.load entry.handle (backs.keeps found) with ⟨keeps, answers⟩
          simp only
          revert keeps answers
          cases DuvmBackend.loadPage backend entry.handle with
          | mk result after =>
              intro keeps answers
              have asked := backs.setBackend found keeps fun fit => (answers fit).1
              cases result with
              | error error => exact ⟨asked.counted _, by simp⟩
              | ok page =>
                  have touched := asked.backs.retouched
                    (PolicyEngine.retouched_recordLoad _ env offset)
                  refine ⟨(touched.trans asked).counted _, ?_⟩
                  intro data isPage fit
                  rcases backs.backed listed with ⟨deposit, deposited, isSlot, mapped⟩
                  have stillFit : CustodyBackend.Fit after := by
                    apply fit entry.backendId
                    exact (lookup_setBackend found entry.backendId after).trans (if_pos rfl)
                  rw [mapped, ← Except.ok.inj isPage,
                    (answers stillFit).2 page rfl offset deposit deposited isSlot]

/-- The engine holds nothing but pages of the map. -/
def HoldsOnly (engine : Engine Backend) (map : UInt64 → Option PageBuffer) : Prop :=
  ∃ deposits, engine.Backs deposits map

theorem simulates_custody :
    Simulates (Engine.model : EngineModel CallEnv (Engine Backend)) Fit HoldsOnly where
  stored := by
    rintro env engine map offset page handle next ⟨deposits, backs⟩ call
    have entrusted := backs.storePage env offset page
    have result : Engine.storePage env engine offset page = (.ok handle, next) := call
    rw [result] at entrusted
    cases entrusted with
    | stored after narrowed => exact ⟨⟨after, narrowed.backs⟩, narrowed.fit⟩
  refused := by
    rintro env engine map offset page error next ⟨deposits, backs⟩ call
    have entrusted := backs.storePage env offset page
    have result : Engine.storePage env engine offset page = (.err error, next) := call
    rw [result] at entrusted
    cases entrusted with
    | refused after narrowed => exact ⟨⟨after, narrowed.backs⟩, narrowed.fit⟩
  loaded := by
    rintro env engine map offset page next ⟨deposits, backs⟩ call
    have result : Engine.loadPage env engine offset = (.ok page, next) := call
    rcases backs.loadPage env offset with ⟨narrowed, answers⟩
    rw [result] at narrowed answers
    exact ⟨⟨deposits, narrowed.backs⟩, fun fit => ⟨narrowed.fit fit, answers page rfl fit⟩⟩
  missed := by
    rintro env engine map offset error next ⟨deposits, backs⟩ call
    have result : Engine.loadPage env engine offset = (.error error, next) := call
    have narrowed := (backs.loadPage env offset).1
    rw [result] at narrowed
    exact ⟨⟨deposits, narrowed.backs⟩, narrowed.fit⟩

end Engine

end Duvm.Daemon
