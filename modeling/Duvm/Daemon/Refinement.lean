import Duvm.Backend.Lz4
import Duvm.Daemon.Session

/-!
# The engine over local backends is a map

Sessions with an engine whose backends are memory and compression backends.
Every page which a load returns is the one stored last under its offset; and as
long as no more offsets are in use than the backends have pages, and no handle
runs out of its 56 bits, no store fails and no page is given up.
-/

namespace Duvm.Daemon

open Function (update)

universe u

/-- The offsets stored and not invalidated since. -/
def live (calls : List Call) : Finset UInt64 :=
  calls.foldl (fun offsets call =>
    match call with
    | .store offset _ => insert offset offsets
    | .invalidate offset => offsets.erase offset
    | _ => offsets) ∅

def Call.isStore : Call → Bool
  | .store _ _ => true
  | _ => false

/-- A store of the offset which succeeded, or an invalidation of it. -/
def Event.settles (offset : UInt64) (event : Event) : Bool :=
  match event.call, event.reply with
  | .store stored _, .handle _ => stored = offset
  | .invalidate invalidated, _ => invalidated = offset
  | _, _ => false

/-- Every load which succeeds returns the page of the latest store which succeeded, and the
offset was not invalidated since. -/
def LoadsLatest (log : List Event) : Prop :=
  Log.Each (fun before event => ∀ offset data,
    event.call = .load offset → event.reply = .page data →
      ∃ handle evicted, Log.last? (Event.settles offset) before =
        some ⟨.store offset data, .handle handle, evicted⟩) log

/-- No store fails, nothing is evicted, and a load succeeds if and only if its offset is live. -/
def KeepsAll (log : List Event) : Prop :=
  Log.Each (fun before event =>
    (∀ offset data, event.call = .store offset data → ∃ handle, event.reply = .handle handle) ∧
    event.evicted = none ∧
    ∀ offset, event.call = .load offset →
      ((∃ data, event.reply = .page data) ↔ offset ∈ live (before.map Event.call))) log

theorem live_concat_store (calls : List Call) (offset : UInt64) (data : PageBuffer) :
    live (calls ++ [.store offset data]) = insert offset (live calls) := by
  simp [live]

theorem live_concat_invalidate (calls : List Call) (offset : UInt64) :
    live (calls ++ [.invalidate offset]) = (live calls).erase offset := by
  simp [live]

theorem Event.touches_of_settles {offset : UInt64} {event : Event}
    (settles : event.settles offset = true) : event.touches offset = true := by
  simp only [Event.settles] at settles
  rw [Event.touches]
  split at settles <;> simp_all

theorem exists_store_of_kept {log : List Event} {offset : UInt64} {data : PageBuffer}
    (isKept : kept log offset = some data) :
    ∃ handle evicted, Log.last? (Event.settles offset) log =
      some ⟨.store offset data, .handle handle, evicted⟩ := by
  rw [kept, Option.bind_eq_some_iff] at isKept
  rcases isKept with ⟨event, isLast, leaves⟩
  rcases event with ⟨call, reply, evicted⟩
  simp only [Event.leaves] at leaves
  split at leaves
  · next _ _ stored page handle =>
      split at leaves
      · next same =>
          subst same
          rw [← Option.some.inj leaves]
          refine ⟨handle, evicted, Log.last?_of_narrower isLast
            (fun _ settles => Event.touches_of_settles settles) ?_⟩
          simp [Event.settles]
      · simp at leaves
  · simp at leaves

namespace Session

variable {Backend : Type u} [LawfulBackend Backend]

variable {session : Session Backend}

theorem loadsLatest_step {next : Session Backend} {action : CallEnv × Call}
    (agrees : session.Agrees) (latest : LoadsLatest session.log)
    (stepped : session.step action = some next) : LoadsLatest next.log := by
  cases stepped_of_step agrees.inv stepped with
  | loaded found same =>
      apply latest.concat
      intro offset data isLoad isPage
      rw [agrees.contents] at found
      rw [← Call.load.inj isLoad, ← Reply.page.inj isPage]
      exact exists_store_of_kept found
  | missed absent same =>
      apply latest.concat
      intro offset data _ isPage
      simp at isPage
  | stored ended =>
      apply latest.concat
      intro offset data isLoad
      simp at isLoad
  | refused ended =>
      apply latest.concat
      intro offset data isLoad
      simp at isLoad
  | invalidated released =>
      apply latest.concat
      intro offset data isLoad
      simp at isLoad
  | flagged same =>
      apply latest.concat
      intro offset data isLoad
      simp at isLoad
  | unflagged same =>
      apply latest.concat
      intro offset data isLoad
      simp at isLoad

/-- Only a store whose handle would not fit panics. -/
theorem exists_step (inv : session.engine.Inv) (action : CallEnv × Call)
    (unspent : action.2.isStore → session.engine.issuedPages < PageHandle.offsetLimit) :
    ∃ next, session.step action = some next := by
  rcases action with ⟨env, call⟩
  cases call with
  | store offset data =>
      have ended := inv.storePage env offset data
      simp only [step]
      cases result : session.engine.storePage env offset data with
      | mk outcome engine =>
          cases outcome with
          | ok handle => exact ⟨_, rfl⟩
          | err error => exact ⟨_, rfl⟩
          | panic =>
              rw [result] at ended
              simp only at ended
              generalize session.engine.evicted env offset = victim at ended
              cases ended with
              | panicked spent =>
                  have below := unspent rfl
                  omega
  | load offset =>
      simp only [step]
      cases session.engine.loadPage env offset with
      | mk outcome engine =>
          cases outcome with
          | ok data => exact ⟨_, rfl⟩
          | error error => exact ⟨_, rfl⟩
  | invalidate offset =>
      simp only [step]
      cases session.engine.invalidatePage offset with
      | mk outcome engine =>
          cases outcome with
          | ok data => exact ⟨_, rfl⟩
          | error error => exact ⟨_, rfl⟩
  | setFlag offset flag => exact ⟨_, rfl⟩
  | clearFlag offset flag => exact ⟨_, rfl⟩

/-- The engine has kept everything which the calls stored. -/
structure Holding (session : Session Backend) (calls : List Call) : Prop where
  agrees : session.Agrees
  logged : session.log.map Event.call = calls
  tracked : ∀ offset, offset ∈ live calls ↔ (kept session.log offset).isSome
  issued : session.engine.issuedPages = calls.countP Call.isStore
  all : KeepsAll session.log

namespace Holding

variable {session : Session Backend} {calls : List Call}

variable {offset : UInt64} {engine : Engine Backend}

/-- One more live offset fits, so there is a backend with room for it. -/
theorem not_full (holding : session.Holding calls)
    (within : (insert offset (live calls)).card ≤ session.engine.totalPages) :
    ¬(session.engine.releaseOld offset).Full := by
  have released := holding.agrees.inv.releaseOld offset
  apply Engine.not_full_of_lt
  have listed : ∀ other, other ∈ (session.engine.releaseOld offset).policy.pages ↔
      other ∈ (live calls).erase offset := by
    intro other
    rw [← released.inv.contents_isSome_iff, released.contents, holding.agrees.contents,
      Finset.mem_erase, holding.tracked other, Function.update_apply]
    by_cases same : other = offset
    · simp [same]
    · simp [same]
  have smaller : ((live calls).erase offset).card <
      (insert offset (live calls)).card := by
    rw [← Finset.insert_erase (Finset.mem_insert_self offset (live calls)),
      Finset.erase_insert_eq_erase]
    rw [Finset.card_insert_of_notMem (Finset.notMem_erase offset _)]
    exact Nat.lt_succ_self _
  rw [released.inv.counted, HashMap.size_eq_card listed, released.follows.total]
  omega

/-- A call which does not touch any page. -/
theorem of_samePlaces (holding : session.Holding calls) {event : Event}
    (same : session.engine.SamePlaces engine) (untouched : ∀ offset, event.touches offset = false)
    (notStore : event.call.isStore = false)
    (unchanged : live (calls ++ [event.call]) = live calls) (notEvicting : event.evicted = none)
    (loads : ∀ offset, event.call = .load offset →
      ((∃ data, event.reply = .page data) ↔ offset ∈ live calls)) :
    (session.record engine event).Holding (calls ++ [event.call]) where
  agrees := holding.agrees.of_samePlaces same untouched
  logged := by simp [record, holding.logged]
  tracked := by
    intro offset
    simp only [record]
    rw [unchanged, kept_concat_of_untouched untouched]
    exact holding.tracked offset
  issued := by
    have issued := same.follows.issued
    simp only [record, List.countP_append, List.countP_singleton, notStore]
    rw [issued, holding.issued]
    rfl
  all := by
    apply holding.all.concat
    refine ⟨?_, notEvicting, ?_⟩
    · intro offset data isStore
      simp [isStore, Call.isStore] at notStore
    · rw [holding.logged]
      exact loads

theorem stored (holding : session.Holding calls) {data : PageBuffer} {handle : PageHandle}
    (agrees : (session.record engine ⟨.store offset data, .handle handle, none⟩).Agrees)
    (follows : session.engine.Follows engine 1) :
    (session.record engine ⟨.store offset data, .handle handle, none⟩).Holding
      (calls ++ [.store offset data]) where
  agrees := agrees
  logged := by simp [record, holding.logged]
  tracked := by
    intro other
    simp only [record]
    rw [live_concat_store, kept_stored, Finset.mem_insert, Function.update_apply,
      holding.tracked other]
    by_cases same : other = offset
    · simp [same]
    · simp [same]
  issued := by
    simp only [record, List.countP_append, List.countP_singleton]
    rw [follows.issued, holding.issued]
    rfl
  all := by
    apply holding.all.concat
    refine ⟨fun _ _ _ => ⟨handle, rfl⟩, rfl, ?_⟩
    intro other isLoad
    simp at isLoad

theorem invalidated (holding : session.Holding calls)
    (agrees : (session.record engine ⟨.invalidate offset, .done, none⟩).Agrees)
    (follows : session.engine.Follows engine 0) :
    (session.record engine ⟨.invalidate offset, .done, none⟩).Holding
      (calls ++ [.invalidate offset]) where
  agrees := agrees
  logged := by simp [record, holding.logged]
  tracked := by
    intro other
    simp only [record]
    rw [live_concat_invalidate, kept_invalidated, Finset.mem_erase, Function.update_apply,
      holding.tracked other]
    by_cases same : other = offset
    · simp [same]
    · simp [same]
  issued := by
    simp only [record, List.countP_append, List.countP_singleton]
    rw [follows.issued, holding.issued]
    rfl
  all := by
    apply holding.all.concat
    refine ⟨?_, rfl, ?_⟩
    · intro other data isStore
      simp at isStore
    · intro other isLoad
      simp at isLoad

theorem step (holding : session.Holding calls) (action : CallEnv × Call)
    (within : (live (calls ++ [action.2])).card ≤ session.engine.totalPages)
    (unspent : (calls ++ [action.2]).countP Call.isStore ≤ PageHandle.offsetLimit) :
    ∃ next, session.step action = some next ∧ next.Holding (calls ++ [action.2]) ∧
      ∃ spent, session.engine.Follows next.engine spent := by
  have available : action.2.isStore → session.engine.issuedPages < PageHandle.offsetLimit := by
    intro isStore
    rw [holding.issued]
    simp only [List.countP_append, List.countP_singleton, isStore, if_true] at unspent
    omega
  rcases exists_step holding.agrees.inv action available with ⟨next, stepped⟩
  refine ⟨next, stepped, ?_⟩
  have agrees := holding.agrees.step stepped
  cases stepped_of_step holding.agrees.inv stepped with
  | @stored env offset data victim handle engine ended =>
      rw [live_concat_store] at within
      have notFull := holding.not_full within
      cases ended with
      | evicting full => exact absurd full notFull
      | placed room nextInv contents follows =>
          exact ⟨holding.stored agrees follows, _, follows⟩
  | @refused env offset data error engine ended =>
      rw [live_concat_store] at within
      have notFull := holding.not_full within
      cases ended with
      | refused full => exact absurd full notFull
  | @loaded env offset data engine found same =>
      refine ⟨holding.of_samePlaces same (fun _ => rfl) rfl ?_ rfl ?_, _, same.follows⟩
      · simp [live]
      · intro other isLoad
        rw [← Call.load.inj isLoad, holding.tracked offset, ← holding.agrees.contents, found]
        simp
  | @missed env offset error engine absent same =>
      refine ⟨holding.of_samePlaces same (fun _ => rfl) rfl ?_ rfl ?_, _, same.follows⟩
      · simp [live]
      · intro other isLoad
        rw [← Call.load.inj isLoad, holding.tracked offset, ← holding.agrees.contents, absent]
        simp
  | @invalidated env offset engine released =>
      exact ⟨holding.invalidated agrees released.follows, _, released.follows⟩
  | flagged same =>
      refine ⟨holding.of_samePlaces same (fun _ => rfl) rfl ?_ rfl ?_, _, same.follows⟩
      · simp [live]
      · intro other isLoad
        simp at isLoad
  | unflagged same =>
      refine ⟨holding.of_samePlaces same (fun _ => rfl) rfl ?_ rfl ?_, _, same.follows⟩
      · simp [live]
      · intro other isLoad
        simp at isLoad

end Holding

variable {backends : HashMap UInt8 Backend}

theorem holding_start
    (empty : ∀ id backend, backends.lookup id = some backend → Empty backend) :
    (start backends).Holding [] where
  agrees := agrees_start empty
  logged := rfl
  tracked := by
    intro offset
    simp [live, kept, start]
  issued := total_eq_zero fun id backend found => (empty id backend found).issued
  all := Log.each_nil

/-- Calls which stay within the capacity of the backends and the range of handles. -/
theorem exists_holding
    (empty : ∀ id backend, backends.lookup id = some backend → Empty backend)
    (actions : List (CallEnv × Call))
    (within : ∀ before, before <+: actions.map Prod.snd →
      (live before).card ≤ (start backends).engine.totalPages)
    (unspent : (actions.map Prod.snd).countP Call.isStore ≤ PageHandle.offsetLimit) :
    ∃ session, Transition.run step (start backends) actions = some session ∧
      session.Holding (actions.map Prod.snd) ∧
      session.engine.totalPages = (start backends).engine.totalPages ∧
      HashMap.size session.engine.backends = HashMap.size backends := by
  induction actions using List.reverseRecOn with
  | nil => exact ⟨start backends, rfl, holding_start empty, rfl, rfl⟩
  | append_singleton earlier action ih =>
      simp only [List.map_append, List.map_cons, List.map_nil] at within unspent ⊢
      have fewer : (earlier.map Prod.snd).countP Call.isStore ≤ PageHandle.offsetLimit := by
        rw [List.countP_append] at unspent
        omega
      rcases ih (fun before isPrefix => within before (isPrefix.trans (List.prefix_append _ _)))
        fewer with ⟨session, reached, holding, total, count⟩
      have fits := within _ (List.prefix_refl _)
      rw [← total] at fits
      rcases holding.step action fits unspent with
        ⟨next, stepped, nextHolding, spent, follows⟩
      refine ⟨next, ?_, nextHolding, follows.total.trans total, follows.count.trans count⟩
      rw [Transition.run_concat, reached]
      exact stepped

theorem loadsLatest_of_run {actions : List (CallEnv × Call)}
    (empty : ∀ id backend, backends.lookup id = some backend → Empty backend)
    (reached : Transition.run step (start backends) actions = some session) :
    LoadsLatest session.log := by
  induction actions using List.reverseRecOn generalizing session with
  | nil =>
      rw [← Option.some.inj reached]
      exact Log.each_nil
  | append_singleton earlier action ih =>
      rw [Transition.run_concat, Option.bind_eq_some_iff] at reached
      rcases reached with ⟨middle, first, stepped⟩
      exact loadsLatest_step (agrees_of_run empty first) (ih first) stepped

theorem calls_of_run {actions : List (CallEnv × Call)}
    (empty : ∀ id backend, backends.lookup id = some backend → Empty backend)
    (reached : Transition.run step (start backends) actions = some session) :
    session.log.map Event.call = actions.map Prod.snd := by
  induction actions using List.reverseRecOn generalizing session with
  | nil =>
      rw [← Option.some.inj reached]
      rfl
  | append_singleton earlier action ih =>
      rw [Transition.run_concat, Option.bind_eq_some_iff] at reached
      rcases reached with ⟨middle, first, stepped⟩
      have inv := (agrees_of_run empty first).inv
      rw [calls_concat_of_step inv stepped, ih first]
      simp

end Session

open Session in
/-- The engine over local backends refines a map, as long as no backend is asked for more
handles than there are. -/
theorem engine_refines_map {codec : Lz4} {backends : HashMap UInt8 (LocalBackend codec)}
    (fresh : ∀ id backend, backends.lookup id = some backend → backend.Fresh)
    (actions : List (CallEnv × Call)) :
    (∀ session, Transition.run step (start backends) actions = some session →
      session.log.map Event.call = actions.map Prod.snd ∧ LoadsLatest session.log) ∧
    ((∀ before, before <+: actions.map Prod.snd →
        (live before).card ≤ HashMap.total (fun backend => backend.maxPages.toNat) backends) →
      (actions.map Prod.snd).countP Call.isStore ≤ 2 ^ 56 →
      ∃ session, Transition.run step (start backends) actions = some session ∧
        session.log.map Event.call = actions.map Prod.snd ∧ KeepsAll session.log) := by
  have empty : ∀ id backend, backends.lookup id = some backend → Empty backend :=
    fun id backend found => empty_of_fresh (fresh id backend found)
  constructor
  · intro session reached
    exact ⟨calls_of_run empty reached, loadsLatest_of_run empty reached⟩
  · intro within unspent
    have total : (start backends).engine.totalPages =
        HashMap.total (fun backend => backend.maxPages.toNat) backends := by
      simp only [start, Engine.withBackends, Engine.totalPages, LocalBackend.total_slots]
    rcases exists_holding empty actions (by rwa [total]) unspent with
      ⟨session, reached, holding, _⟩
    exact ⟨session, reached, holding.logged, holding.all⟩

def oneBackend : HashMap UInt8 (LocalBackend .literalLz4) :=
  (∅ : HashMap UInt8 (LocalBackend .literalLz4)).insert 0 (.memory (.new 0 1))

theorem fresh_oneBackend (id : UInt8) (backend : LocalBackend .literalLz4)
    (found : oneBackend.lookup id = some backend) : backend.Fresh := by
  simp only [oneBackend, HashMap.lookup_insert_eq_ite, AList.lookup_empty] at found
  split at found
  · rw [← Option.some.inj found]
    exact ⟨0, 1, rfl⟩
  · simp at found

/-- The same page stored again and again. -/
def overwrites (count : ℕ) : List (CallEnv × Call) :=
  List.replicate count (⟨0, .listed TrackedPage⟩, .store 0 .zero)

theorem live_overwrites (count : ℕ) (before : List Call)
    (isPrefix : before <+: (overwrites count).map Prod.snd) : live before ⊆ {0} := by
  rw [overwrites, List.map_replicate] at isPrefix
  induction before using List.reverseRecOn with
  | nil => simp [live]
  | append_singleton earlier call ih =>
      have isStore : call = .store 0 .zero :=
        List.eq_of_mem_replicate (isPrefix.subset (by simp))
      rw [isStore, live_concat_store]
      apply Finset.insert_subset (by simp)
      exact ih ((List.prefix_append _ _).trans isPrefix)

theorem card_live_overwrites (count : ℕ) (before : List Call)
    (isPrefix : before <+: (overwrites count).map Prod.snd) : (live before).card ≤ 1 :=
  Finset.card_le_card (live_overwrites count before isPrefix)

theorem overwrites_succ (count : ℕ) :
    overwrites (count + 1) = overwrites count ++ [(⟨0, .listed TrackedPage⟩, .store 0 .zero)] :=
  List.replicate_succ'

theorem countP_overwrites (count : ℕ) :
    ((overwrites count).map Prod.snd).countP Call.isStore = count := by
  rw [overwrites, List.map_replicate, List.countP_replicate]
  rfl

open Session in
/-- All handles can be used up, and then there is no further store. -/
theorem handles_run_out :
    ∃ session, Transition.run step (start oneBackend) (overwrites (2 ^ 56)) = some session ∧
      session.step (⟨0, .listed TrackedPage⟩, .store 0 .zero) = none := by
  have empty : ∀ id backend, oneBackend.lookup id = some backend → Empty backend :=
    fun id backend found => empty_of_fresh (fresh_oneBackend id backend found)
  rcases exists_holding empty (overwrites (2 ^ 56)) (card_live_overwrites _)
    (countP_overwrites _).le with ⟨session, reached, holding, total, count⟩
  refine ⟨session, reached, ?_⟩
  rw [Option.eq_none_iff_forall_ne_some]
  intro next stepped
  have notFull : ¬(session.engine.releaseOld 0).Full := by
    apply holding.not_full
    rw [total, ← live_concat_store _ _ .zero]
    have again := card_live_overwrites (2 ^ 56 + 1) _ (List.prefix_refl _)
    rw [overwrites_succ, List.map_append] at again
    exact again
  cases stepped_of_step holding.agrees.inv stepped with
  | refused ended =>
      cases ended with
      | refused full => exact notFull full
  | stored ended =>
      cases ended with
      | evicting full => exact notFull full
      | placed room nextInv contents follows =>
          have bounded := nextInv.issuedPages_le
          rw [follows.count, count, follows.issued, holding.issued, countP_overwrites] at bounded
          have one : HashMap.size oneBackend = 1 := rfl
          have limit : PageHandle.offsetLimit = 2 ^ 56 := rfl
          rw [one, limit] at bounded
          omega

open Session in
/-- A single offset is stored again and again in a backend with one page; when the 56 bits
of the handles are used up, the next store panics. -/
theorem store_panics_when_handles_run_out :
    (∀ id backend, oneBackend.lookup id = some backend → backend.Fresh) ∧
      (∀ before, before <+: (overwrites (2 ^ 56 + 1)).map Prod.snd →
        (live before).card ≤ HashMap.total (fun backend => backend.maxPages.toNat) oneBackend) ∧
      Transition.run step (start oneBackend) (overwrites (2 ^ 56 + 1)) = none := by
  refine ⟨fresh_oneBackend, card_live_overwrites _, ?_⟩
  rcases handles_run_out with ⟨session, reached, panicked⟩
  rw [overwrites_succ, Transition.run_concat, reached, Option.bind_some, panicked]

def twoBackends : HashMap UInt8 (LocalBackend .literalLz4) :=
  ((∅ : HashMap UInt8 (LocalBackend .literalLz4)).insert 1 (.compress (.new 1 1))).insert 0
    (.memory (.new 0 1))

theorem fresh_twoBackends (id : UInt8) (backend : LocalBackend .literalLz4)
    (found : twoBackends.lookup id = some backend) : backend.Fresh := by
  simp only [twoBackends, HashMap.lookup_insert_eq_ite, AList.lookup_empty] at found
  split at found
  · rw [← Option.some.inj found]
    exact ⟨0, 1, rfl⟩
  · split at found
    · rw [← Option.some.inj found]
      exact ⟨1, 1, rfl⟩
    · simp at found

def fillAndRead : List (CallEnv × Call) :=
  [.store 5 countingPage, .store 6 countingPage, .load 6, .invalidate 5, .load 5].map
    fun call => (⟨0, .listed TrackedPage⟩, call)

/-- Two pages fill both backends and are read back; an invalidated one is gone. -/
theorem fillAndRead_keepsAll :
    ∃ session, Transition.run Session.step (.start twoBackends) fillAndRead = some session ∧
      session.log.map Event.call = fillAndRead.map Prod.snd ∧ KeepsAll session.log := by
  refine (engine_refines_map fresh_twoBackends fillAndRead).2 ?_ (by decide)
  intro before isPrefix
  have total : HashMap.total (fun backend => backend.maxPages.toNat) twoBackends = 2 := rfl
  rw [total]
  rw [← List.mem_inits] at isPrefix
  simp only [fillAndRead, List.map_cons, List.map_nil, List.inits, List.mem_cons,
    List.not_mem_nil, or_false] at isPrefix
  rcases isPrefix with rfl | rfl | rfl | rfl | rfl | rfl <;> decide

end Duvm.Daemon
