import Duvm.Backend.Fallible
import Duvm.Daemon.Moves
import Mathlib.Data.List.Find

/-!
# What an eviction takes away

`try_evict_one` goes through the backends in the order of their map. In each it takes
the least recently used page which is not pinned out of the policy and asks the backend
to free it; if the backend fails, the page stays out of the policy and the next backend
is tried. Nothing is assumed of the backends here.
-/

namespace Duvm.Daemon

universe u

namespace PolicyEngine

/-- An unpinned page which was used no later than any other, on whichever backend. -/
structure LeastOverall (policy : PolicyEngine) (offset : UInt64) (entry : PageMeta) : Prop where
  listed : policy.lookup offset = some entry
  unpinned : entry.flags.contains .PINNED = false
  least : ∀ other second, policy.lookup other = some second →
    second.flags.contains .PINNED = false → entry.lastAccess ≤ second.lastAccess

/-- No two pages were used at the same time. -/
def UsedApart (policy : PolicyEngine) : Prop :=
  ∀ left right first second, policy.lookup left = some first → policy.lookup right = some second →
    first.lastAccess = second.lastAccess → left = right

theorem lastAccess_le_of_not_usedBefore {left right : ℕ × UInt32}
    (later : usedBefore left right = false) : right.1 ≤ left.1 := by
  simp only [usedBefore, Bool.or_eq_false_iff, decide_eq_false_iff_not] at later
  omega

variable {policy : PolicyEngine} {id : UInt8} {offset other : UInt64} {entry second : PageMeta}

theorem LeastRecent.unique (recent : policy.LeastRecent id offset entry)
    (apart : policy.UsedApart) (isSecond : policy.LeastRecent id other second) :
    offset = other := by
  apply apart offset other entry second recent.listed isSecond.listed
  have below := lastAccess_le_of_not_usedBefore
    (recent.least other second isSecond.listed isSecond.onBackend isSecond.unpinned)
  have above := lastAccess_le_of_not_usedBefore
    (isSecond.least offset entry recent.listed recent.onBackend recent.unpinned)
  omega

/-- Of two pages of a backend, the least recently used one is the least overall if the other
is. -/
theorem LeastRecent.leastOverall (recent : policy.LeastRecent id offset entry)
    (overall : policy.LeastOverall other second) (onBackend : second.backendId = id) :
    policy.LeastOverall offset entry := by
  refine ⟨recent.listed, recent.unpinned, ?_⟩
  intro third found listed unpinned
  have first := lastAccess_le_of_not_usedBefore
    (recent.least other second overall.listed onBackend overall.unpinned)
  exact first.trans (overall.least third found listed unpinned)

end PolicyEngine

namespace Engine

variable {Backend : Type u} [DuvmBackend Backend] {engine : Engine Backend} {env : CallEnv}
  {ids : List UInt8} {id other : UInt8} {offset victim : UInt64} {entry found : PageMeta}

/-- The backend has a page to give up, and frees it. -/
def givesUp (env : CallEnv) (engine : Engine Backend) (id : UInt8) : Bool :=
  match (engine.policy.findEvictionCandidate env id).bind engine.policy.lookup with
  | none => false
  | some entry => (engine.backends.lookup id).any fun backend =>
      (DuvmBackend.freePage backend entry.handle).1.isOk

/-- In the order of the map, the first backend with a page to give up. -/
def firstCandidate (env : CallEnv) (engine : Engine Backend) : Option UInt8 :=
  engine.backends.keys.find? fun id => (engine.policy.findEvictionCandidate env id).isSome

/-- In the order of the map, the first backend which gives up a page. -/
def firstGivingUp (env : CallEnv) (engine : Engine Backend) : Option UInt8 :=
  engine.backends.keys.find? (engine.givesUp env)

/-- The page is taken out of the policy, and its backend is asked to free it. -/
def taken (engine : Engine Backend) (id : UInt8) (victim : UInt64) (entry : PageMeta) :
    Engine Backend :=
  ((engine.untrack victim).freeOn id entry.handle).2

omit [DuvmBackend Backend] in
theorem firstCandidate_eq_none_iff : engine.firstCandidate env = none ↔
    ∀ id ∈ engine.backends.keys, engine.policy.findEvictionCandidate env id = none := by
  simp [firstCandidate, List.find?_eq_none]

theorem givesUp_iff (selected : engine.policy.findEvictionCandidate env id = some victim)
    (listed : engine.policy.lookup victim = some entry) :
    engine.givesUp env id = true ↔
      ((engine.untrack victim).freeOn id entry.handle).1 = some (.ok ()) := by
  have same : (engine.untrack victim).backends = engine.backends := rfl
  simp only [givesUp, selected, Option.bind_some, listed, freeOn, same]
  cases engine.backends.lookup id with
  | none => simp
  | some backend =>
      simp only [Option.any_some, Option.some.injEq]
      cases (DuvmBackend.freePage backend entry.handle).1 with
      | error error => simp [Except.isOk, Except.toBool]
      | ok done => simp [Except.isOk, Except.toBool]

/-- One round of the loop: there is no page to take, the page taken is freed, or it is not. -/
inductive Round (env : CallEnv) (id : UInt8) (rest : List UInt8) (engine : Engine Backend) :
    Option UInt64 × Engine Backend → Prop
  | skipped (noCandidate : engine.policy.findEvictionCandidate env id = none) :
      Round env id rest engine (tryEvictFrom env rest engine)
  | freed (victim : UInt64) (entry : PageMeta)
      (selected : engine.policy.findEvictionCandidate env id = some victim)
      (least : engine.policy.LeastRecent id victim entry) (gives : engine.givesUp env id = true) :
      Round env id rest engine (some victim, { engine.taken id victim entry with
        stats := (engine.taken id victim entry).stats.invalidated })
  | failed (victim : UInt64) (entry : PageMeta)
      (selected : engine.policy.findEvictionCandidate env id = some victim)
      (least : engine.policy.LeastRecent id victim entry)
      (refuses : engine.givesUp env id = false) :
      Round env id rest engine (tryEvictFrom env rest (engine.taken id victim entry))

theorem round (env : CallEnv) (id : UInt8) (rest : List UInt8) (engine : Engine Backend) :
    Round env id rest engine (tryEvictFrom env (id :: rest) engine) := by
  simp only [tryEvictFrom]
  cases selected : engine.policy.findEvictionCandidate env id with
  | none => exact .skipped selected
  | some victim =>
      rcases PolicyEngine.leastRecent_of_candidate selected with ⟨entry, least⟩
      have gives := givesUp_iff selected least.listed
      have failed := @Round.failed _ _ env id rest engine victim entry selected least
      have freed := @Round.freed _ _ env id rest engine victim entry selected least
      simp only [least.listed]
      unfold taken at failed freed
      revert gives failed freed
      rcases (engine.untrack victim).freeOn id entry.handle with ⟨_ | _ | _, after⟩
      · intro gives failed _
        exact failed (by simpa using gives)
      · intro gives failed _
        exact failed (by simpa using gives)
      · intro gives _ freed
        exact freed (gives.mpr rfl)

theorem lookup_taken (engine : Engine Backend) (id : UInt8) (victim : UInt64) (entry : PageMeta)
    (other : UInt64) :
    (engine.taken id victim entry).policy.lookup other =
      if other = victim then none else engine.policy.lookup other := by
  rw [taken, policy_freeOn, lookup_untrack]

/-- A page is left alone and not reported, or it was not pinned and is taken. -/
inductive LeftOrTaken (engine next : Engine Backend) (reported : Option UInt64)
    (offset : UInt64) : Prop
  | left (same : next.policy.lookup offset = engine.policy.lookup offset)
      (unreported : reported ≠ some offset)
  | taken (entry : PageMeta) (listed : engine.policy.lookup offset = some entry)
      (unpinned : entry.flags.contains .PINNED = false)
      (gone : next.policy.lookup offset = none)

omit [DuvmBackend Backend] in
theorem LeftOrTaken.listed {next : Engine Backend} {reported : Option UInt64}
    (ended : engine.LeftOrTaken next reported offset)
    (listed : next.policy.lookup offset = some entry) :
    engine.policy.lookup offset = some entry := by
  cases ended with
  | left same _ => exact same.symm.trans listed
  | taken _ _ _ gone => cases gone.symm.trans listed

theorem leftOrTaken_tryEvictFrom (env : CallEnv) (ids : List UInt8) (engine : Engine Backend)
    (offset : UInt64) :
    engine.LeftOrTaken (tryEvictFrom env ids engine).2 (tryEvictFrom env ids engine).1 offset := by
  induction ids generalizing engine with
  | nil => exact .left rfl (Option.some_ne_none _).symm
  | cons id rest ih =>
      generalize tryEvictFrom env (id :: rest) engine = result, round env id rest engine = made
      cases made with
      | skipped _ => exact ih engine
      | freed victim entry _ least _ =>
          have after := lookup_taken engine id victim entry offset
          by_cases same : offset = victim
          · rw [if_pos same] at after
            exact .taken entry (same ▸ least.listed) least.unpinned after
          · rw [if_neg same] at after
            exact .left after (fun reported => same (Option.some.inj reported).symm)
      | failed victim entry _ least _ =>
          have after := lookup_taken engine id victim entry offset
          by_cases same : offset = victim
          · rw [if_pos same] at after
            have moves : Moves none (engine.taken id victim entry) _ :=
              moves_tryEvictFrom env rest _
            exact .taken entry (same ▸ least.listed) least.unpinned
              (untracked_of_moves (fun _ => (Option.some_ne_none _).symm) after moves)
          · rw [if_neg same] at after
            cases ih (engine.taken id victim entry) with
            | left kept unreported => exact .left (kept.trans after) unreported
            | taken found listed unpinned gone =>
                exact .taken found (after.symm.trans listed) unpinned gone

/-- With nothing to take, nothing is taken. -/
theorem tryEvictFrom_of_no_candidate
    (noCandidate : ∀ id ∈ ids, engine.policy.findEvictionCandidate env id = none) :
    tryEvictFrom env ids engine = (none, engine) := by
  induction ids with
  | nil => rfl
  | cons id rest ih =>
      simp only [tryEvictFrom, noCandidate id List.mem_cons_self]
      exact ih fun other later => noCandidate other (List.mem_cons_of_mem _ later)

/-- A page least recently used once a page of another backend has been taken out was so before. -/
theorem leastRecent_of_taken (taken : engine.policy.LeastRecent id victim entry)
    (distinct : other ≠ id)
    (least : (engine.taken id victim entry).policy.LeastRecent other offset found) :
    engine.policy.LeastRecent other offset found := by
  have listed := least.listed
  rw [lookup_taken] at listed
  split at listed
  · cases listed
  · refine ⟨listed, least.onBackend, least.unpinned, ?_⟩
    intro third second isListed onBackend unpinned
    apply least.least third second _ onBackend unpinned
    rw [lookup_taken, if_neg, isListed]
    rintro rfl
    rw [taken.listed] at isListed
    rw [← onBackend, ← Option.some.inj isListed, taken.onBackend] at distinct
    exact distinct rfl

/-- When no two pages were used at the same time, what a backend gives up does not depend on what
is taken from another one. -/
theorem givesUp_taken (apart : engine.policy.UsedApart)
    (taken : engine.policy.LeastRecent id victim entry) (distinct : other ≠ id) :
    (engine.taken id victim entry).givesUp env other = engine.givesUp env other := by
  have sameBackend : (engine.taken id victim entry).backends.lookup other =
      engine.backends.lookup other := by
    unfold Engine.taken freeOn
    split
    · rfl
    · next backend found => exact (lookup_setBackend found other _).trans (if_neg distinct)
  have kept : ∀ offset found, engine.policy.lookup offset = some found → found.backendId = other →
      (engine.taken id victim entry).policy.lookup offset = some found := by
    intro offset found listed onOther
    rw [lookup_taken, if_neg, listed]
    rintro rfl
    cases listed.symm.trans taken.listed
    exact distinct (onOther.symm.trans taken.onBackend)
  have sameEntry : ((engine.taken id victim entry).policy.findEvictionCandidate env other).bind
      (engine.taken id victim entry).policy.lookup =
        (engine.policy.findEvictionCandidate env other).bind engine.policy.lookup := by
    cases after : (engine.taken id victim entry).policy.findEvictionCandidate env other with
    | none =>
        cases before : engine.policy.findEvictionCandidate env other with
        | none => rfl
        | some offset =>
            rcases PolicyEngine.leastRecent_of_candidate before with ⟨found, least⟩
            have pinned := PolicyEngine.pinned_of_no_candidate after
              (kept offset found least.listed least.onBackend) least.onBackend
            cases least.unpinned.symm.trans pinned
    | some offset =>
        rcases PolicyEngine.leastRecent_of_candidate after with ⟨found, leastAfter⟩
        have least := leastRecent_of_taken taken distinct leastAfter
        cases before : engine.policy.findEvictionCandidate env other with
        | none =>
            have pinned := PolicyEngine.pinned_of_no_candidate before least.listed least.onBackend
            cases least.unpinned.symm.trans pinned
        | some second =>
            rcases PolicyEngine.leastRecent_of_candidate before with ⟨_, leastBefore⟩
            rw [leastBefore.unique apart least, Option.bind_some, Option.bind_some,
              leastAfter.listed, least.listed]
  rw [givesUp, givesUp, sameEntry, sameBackend]

/-- The page given up is the least recently used one of its backend, which is the first one that
gives up a page if no two pages were used at the same time. -/
theorem leastRecent_of_tryEvictFrom (nodup : ids.Nodup)
    (evicted : (tryEvictFrom env ids engine).1 = some victim) :
    ∃ id ∈ ids, ∃ entry, engine.policy.LeastRecent id victim entry ∧
      (engine.policy.UsedApart → ids.find? (engine.givesUp env) = some id) := by
  induction ids generalizing engine with
  | nil => simp [tryEvictFrom] at evicted
  | cons id rest ih =>
      rcases List.nodup_cons.mp nodup with ⟨fresh, restNodup⟩
      revert evicted
      generalize tryEvictFrom env (id :: rest) engine = result, round env id rest engine = made
      cases made with
      | skipped noCandidate =>
          intro evicted
          rcases ih restNodup evicted with ⟨other, later, entry, least, first⟩
          refine ⟨other, List.mem_cons_of_mem _ later, entry, least, ?_⟩
          rwa [List.find?_cons_of_neg (by simp [givesUp, noCandidate])]
      | freed offset entry _ least gives =>
          intro evicted
          cases evicted
          exact ⟨id, List.mem_cons_self, entry, least, fun _ => List.find?_cons_of_pos gives⟩
      | failed offset entry _ least refuses =>
          intro evicted
          rcases ih restNodup evicted with ⟨other, later, found, leastThere, first⟩
          have distinct : ∀ third ∈ rest, third ≠ id := by
            rintro third listed rfl
            exact fresh listed
          refine ⟨other, List.mem_cons_of_mem _ later, found,
            leastRecent_of_taken least (distinct other later) leastThere, fun apart => ?_⟩
          have apartAfter : (engine.taken id offset entry).policy.UsedApart := by
            intro left right first second isFirst isSecond
            rw [lookup_taken, Option.ite_none_left_eq_some] at isFirst isSecond
            exact apart left right first second isFirst.2 isSecond.2
          rw [List.find?_cons_of_neg (by simp [refuses]), ← first apartAfter]
          apply List.find?_congr
          intro third listed
          exact (givesUp_taken apart least (distinct third listed)).symm

/-- The first backend with a page to give up frees it, and nothing else happens; or it does not,
and the page is gone and not reported. -/
theorem tryEvictFrom_of_candidate (nodup : ids.Nodup)
    (first : ids.find? (fun id => (engine.policy.findEvictionCandidate env id).isSome) = some id) :
    ∃ victim entry, engine.policy.findEvictionCandidate env id = some victim ∧
      engine.policy.LeastRecent id victim entry ∧
      (tryEvictFrom env ids engine).2.policy.lookup victim = none ∧
      (engine.givesUp env id = true ∧ tryEvictFrom env ids engine =
          (some victim, { engine.taken id victim entry with
            stats := (engine.taken id victim entry).stats.invalidated }) ∨
        engine.givesUp env id = false ∧ (tryEvictFrom env ids engine).1 ≠ some victim) := by
  induction ids with
  | nil => cases first
  | cons head rest ih =>
      have restNodup := (List.nodup_cons.mp nodup).2
      generalize tryEvictFrom env (head :: rest) engine = result, round env head rest engine = made
      cases made with
      | skipped noCandidate =>
          rw [List.find?_cons_of_neg (by simp [noCandidate])] at first
          exact ih restNodup first
      | freed victim entry selected least gives =>
          rw [List.find?_cons_of_pos (by simp [selected])] at first
          cases first
          refine ⟨victim, entry, selected, least, ?_, Or.inl ⟨gives, rfl⟩⟩
          change (engine.taken id victim entry).policy.lookup victim = none
          rw [lookup_taken, if_pos rfl]
      | failed victim entry selected least refuses =>
          rw [List.find?_cons_of_pos (by simp [selected])] at first
          cases first
          have gone : (engine.taken id victim entry).policy.lookup victim = none := by
            rw [lookup_taken, if_pos rfl]
          have moves : Moves none (engine.taken id victim entry) _ :=
            moves_tryEvictFrom env rest _
          refine ⟨victim, entry, selected, least,
            untracked_of_moves (fun _ => (Option.some_ne_none _).symm) gone moves,
            Or.inr ⟨refuses, ?_⟩⟩
          intro reported
          rcases leastRecent_of_tryEvictFrom restNodup reported with ⟨_, _, found, recent, _⟩
          cases gone.symm.trans recent.listed

/-- An eviction took what it reports: nothing, or one page, unpinned, which its backend freed. -/
def EvictsExactly (engine next : Engine Backend) : Option UInt64 → Prop
  | none => next.policy = engine.policy
  | some offset => ∃ entry backend, engine.policy.lookup offset = some entry ∧
      entry.flags.contains .PINNED = false ∧
      engine.backends.lookup entry.backendId = some backend ∧
      (DuvmBackend.freePage backend entry.handle).1 = .ok () ∧
      next.policy = ⟨engine.policy.pages.erase offset⟩ ∧
      next.backends = engine.backends.replace entry.backendId
        (DuvmBackend.freePage backend entry.handle).2

/-- A page which is missing and was not reported has been taken beside the one reported. -/
theorem not_evictsExactly_of_gone {next : Engine Backend} {reported : Option UInt64}
    (listed : engine.policy.lookup victim = some entry) (gone : next.policy.lookup victim = none)
    (unreported : reported ≠ some victim) : ¬engine.EvictsExactly next reported := by
  intro exactly
  cases reported with
  | none =>
      have same : next.policy = engine.policy := exactly
      rw [same, listed] at gone
      cases gone
  | some offset =>
      rcases exactly with ⟨_, _, _, _, _, _, policy, _⟩
      have distinct : victim ≠ offset := fun same => unreported (congrArg some same.symm)
      rw [policy, PolicyEngine.lookup, HashMap.lookup_erase_eq_ite, if_neg distinct] at gone
      cases gone.symm.trans listed

theorem evictsExactly_of_givesUp
    (selected : engine.policy.findEvictionCandidate env id = some victim)
    (least : engine.policy.LeastRecent id victim entry)
    (gives : engine.givesUp env id = true) :
    engine.EvictsExactly { engine.taken id victim entry with
      stats := (engine.taken id victim entry).stats.invalidated } (some victim) := by
  rcases least.onBackend with rfl
  have freed := (givesUp_iff selected least.listed).mp gives
  unfold EvictsExactly taken
  unfold freeOn at freed ⊢
  split at freed
  · cases freed
  · next backend found =>
      exact ⟨entry, backend, least.listed, least.unpinned, found, Option.some.inj freed, rfl, rfl⟩

/-- An eviction takes what it reports if and only if the first backend with a page to give up
frees it. -/
theorem evictsExactly_iff (env : CallEnv) (engine : Engine Backend) :
    engine.EvictsExactly (engine.tryEvictOne env).2 (engine.tryEvictOne env).1 ↔
      ∀ id, engine.firstCandidate env = some id → engine.givesUp env id = true := by
  rw [tryEvictOne]
  cases first : engine.firstCandidate env with
  | none =>
      rw [tryEvictFrom_of_no_candidate (firstCandidate_eq_none_iff.mp first)]
      exact iff_of_true rfl (by simp)
  | some id =>
      rcases tryEvictFrom_of_candidate engine.backends.keys_nodup first with
        ⟨victim, entry, selected, least, gone, ⟨gives, evicted⟩ | ⟨refuses, unreported⟩⟩
      · rw [evicted]
        exact iff_of_true (evictsExactly_of_givesUp selected least gives) (by simpa using gives)
      · exact iff_of_false (not_evictsExactly_of_gone least.listed gone unreported)
          (by simp [refuses])

/-- A memory backend, some of whose calls fail. -/
def flakyPage (pages : UInt64) (faults : List Bool) : HashMap UInt8 (Flaky MemoryBackend) :=
  (∅ : HashMap UInt8 (Flaky MemoryBackend)).insert 0 ⟨.new 0 pages, faults⟩

def storeOne : List (CallEnv × Call) := [(⟨1, .listed TrackedPage⟩, .store 1 (.filled 1))]

def laterCall : CallEnv := ⟨2, .listed TrackedPage⟩

/-- The only page is taken and freed. -/
theorem only_page_freed :
    ∃ session,
      Transition.run Session.step (.start (flakyPage 1 [])) storeOne = some session ∧
      (session.engine.tryEvictOne laterCall).1 = some 1 ∧
      session.engine.EvictsExactly (session.engine.tryEvictOne laterCall).2 (some 1) := by
  have ran : ∃ session,
      Transition.run Session.step (.start (flakyPage 1 [])) storeOne = some session ∧
      (session.engine.tryEvictOne laterCall).1 = some 1 ∧
      session.engine.firstCandidate laterCall = some 0 ∧
      session.engine.givesUp laterCall 0 = true := ⟨_, rfl, rfl, rfl, rfl⟩
  rcases ran with ⟨session, reached, reported, first, gives⟩
  have exactly := (evictsExactly_iff laterCall session.engine).mpr (by simpa [first] using gives)
  rw [reported] at exactly
  exact ⟨session, reached, reported, exactly⟩

/-- The only page is taken and not freed; nothing is reported, and the page is lost. -/
theorem unreported_page_lost :
    ∃ session entry,
      Transition.run Session.step (.start (flakyPage 1 [false, false, true])) storeOne =
        some session ∧
      (session.engine.tryEvictOne laterCall).1 = none ∧
      session.engine.policy.lookup 1 = some entry ∧
      (session.engine.tryEvictOne laterCall).2.policy.lookup 1 = none :=
  ⟨_, _, rfl, rfl, rfl, rfl⟩

/-- Where the first backend with a page to give up frees it, this is the page given up. -/
theorem firstCandidate_of_evicted (evicted : (engine.tryEvictOne env).1 = some victim)
    (listed : engine.policy.lookup victim = some entry)
    (gives : ∀ id, engine.firstCandidate env = some id → engine.givesUp env id = true) :
    engine.firstCandidate env = some entry.backendId := by
  rw [tryEvictOne] at evicted
  cases first : engine.firstCandidate env with
  | none =>
      rw [tryEvictFrom_of_no_candidate (firstCandidate_eq_none_iff.mp first)] at evicted
      cases evicted
  | some id =>
      rcases tryEvictFrom_of_candidate engine.backends.keys_nodup first with
        ⟨offset, found, _, least, _, ⟨_, result⟩ | ⟨refuses, _⟩⟩
      · rw [result] at evicted
        cases evicted
        cases listed.symm.trans least.listed
        rw [least.onBackend]
      · rw [gives id first] at refuses
        cases refuses

/-- A page given up by a store is the least recently used one of its backend. If no two pages were
used at the same time, this is the first in the order of the backends which gives up a page, and the
page is the least recently used of all if and only if that one is on the first backend which gives
up a page. If the first backend with a page to give up frees it, this is the one; and in any case
the page is the least recently used of all if and only if that one is on the same backend. All this
is said of the state in which `try_evict_one` is called, when the old page has been released. -/
theorem evicted_leastOverall_iff (evicted : engine.evicted env offset = some victim) :
    ∃ entry, (engine.releaseOld offset).policy.LeastRecent entry.backendId victim entry ∧
      ((engine.releaseOld offset).policy.UsedApart →
        (engine.releaseOld offset).firstGivingUp env = some entry.backendId ∧
        ((engine.releaseOld offset).policy.LeastOverall victim entry ↔
          ∃ least second, (engine.releaseOld offset).policy.LeastOverall least second ∧
            (engine.releaseOld offset).firstGivingUp env = some second.backendId)) ∧
      ((∀ id, (engine.releaseOld offset).firstCandidate env = some id →
          (engine.releaseOld offset).givesUp env id = true) →
        (engine.releaseOld offset).firstCandidate env = some entry.backendId) ∧
      ((engine.releaseOld offset).policy.LeastOverall victim entry ↔
        ∃ least second, (engine.releaseOld offset).policy.LeastOverall least second ∧
          second.backendId = entry.backendId) := by
  unfold Engine.evicted at evicted
  split at evicted
  · cases evicted
  · have nodup := (engine.releaseOld offset).backends.keys_nodup
    rcases leastRecent_of_tryEvictFrom nodup evicted with ⟨id, _, entry, recent, first⟩
    rcases recent.onBackend with rfl
    have overall_iff : (engine.releaseOld offset).policy.LeastOverall victim entry ↔
        ∃ least second, (engine.releaseOld offset).policy.LeastOverall least second ∧
          second.backendId = entry.backendId := by
      constructor
      · intro overall
        exact ⟨victim, entry, overall, rfl⟩
      · rintro ⟨least, second, overall, onBackend⟩
        exact recent.leastOverall overall onBackend
    refine ⟨entry, recent, ?_, ?_, overall_iff⟩
    · intro apart
      have isFirst : (engine.releaseOld offset).firstGivingUp env = some entry.backendId :=
        first apart
      refine ⟨isFirst, ?_⟩
      simp only [isFirst, Option.some.injEq, overall_iff, eq_comm]
    · intro gives
      exact firstCandidate_of_evicted evicted recent.listed gives

/-- Two memory backends for a single page each. -/
def twoPages : HashMap UInt8 MemoryBackend :=
  ((∅ : HashMap UInt8 MemoryBackend).insert 1 (.new 1 1)).insert 0 (.new 0 1)

def storeTwoLoadSecond : List (CallEnv × Call) :=
  [(⟨1, .listed TrackedPage⟩, .store 1 (.filled 1)),
    (⟨2, .listed TrackedPage⟩, .store 2 (.filled 2)),
    (⟨3, .listed TrackedPage⟩, .load 2)]

/-- The page given up is the least recently used one, and is on the first backend. -/
theorem least_recent_page_evicted :
    ∃ session entry,
      Transition.run Session.step (.start twoPages) storeTwoLoadSecond = some session ∧
      session.engine.evicted ⟨4, .listed TrackedPage⟩ 3 = some 1 ∧
      session.engine.policy.LeastOverall 1 entry := by
  have ran : ∃ session entry,
      Transition.run Session.step (.start twoPages) storeTwoLoadSecond = some session ∧
      session.engine.evicted ⟨4, .listed TrackedPage⟩ 3 = some 1 ∧
      session.engine.policy.lookup 1 = some entry ∧ entry.flags.contains .PINNED = false ∧
      session.engine.policy.lookup 3 = none ∧
      ∀ page ∈ session.engine.policy.pages.entries, entry.lastAccess ≤ page.2.lastAccess :=
    ⟨_, _, rfl, rfl, rfl, rfl, rfl, by decide⟩
  rcases ran with ⟨session, entry, reached, evicted, listed, unpinned, untracked, least⟩
  have overall : session.engine.policy.LeastOverall 1 entry :=
    ⟨listed, unpinned, fun other second isListed _ =>
      least ⟨other, second⟩ (HashMap.mem_entries_iff.mpr isListed)⟩
  have conditions := evicted_leastOverall_iff evicted
  rw [releaseOld_of_untracked untracked] at conditions
  rcases conditions with ⟨found, recent, _, _, isLeast⟩
  cases recent.listed.symm.trans listed
  exact ⟨session, entry, reached, evicted, isLeast.mpr ⟨1, entry, overall, rfl⟩⟩

def storeTwoLoadFirst : List (CallEnv × Call) :=
  [(⟨1, .listed TrackedPage⟩, .store 1 (.filled 1)),
    (⟨2, .listed TrackedPage⟩, .store 2 (.filled 2)),
    (⟨3, .listed TrackedPage⟩, .load 1)]

/-- The page given up is on the first backend, and was used after the one on the second. -/
theorem recently_used_page_evicted :
    ∃ session recent older,
      Transition.run Session.step (.start twoPages) storeTwoLoadFirst = some session ∧
      session.engine.policy.lookup 1 = some recent ∧
      session.engine.policy.lookup 2 = some older ∧
      older.flags.contains .PINNED = false ∧ older.lastAccess < recent.lastAccess ∧
      session.engine.evicted ⟨4, .listed TrackedPage⟩ 3 = some 1 :=
  ⟨_, _, _, rfl, rfl, rfl, rfl, by decide, rfl⟩

end Engine

end Duvm.Daemon
