import Duvm.Libduvm.Handles

/-!
# The room of the pool

`Pool::capacity` adds up the backends, but `Pool::store` stores into the
compression backend alone, as long as there is one. A store therefore succeeds
exactly as long as fewer pages are in use than that backend may have, which is
half of the total which the pool reports.
-/

namespace Duvm.Libduvm.PoolSession

variable {codec : Lz4}

namespace Represents

variable {session : PoolSession codec} {backend : LocalBackend codec}

/-- The pool reports the limits of both backends. -/
theorem capacity_eq (represents : session.Represents backend)
    (limit : (LawfulBackend.slots backend).total = defaultMaxPages.toNat) :
    session.pool.capacity.1 = 2 * defaultMaxPages ∧
      session.pool.capacity.2.toNat = (LawfulBackend.slots backend).used := by
  refine ⟨?_, represents.toNat_capacity.trans represents.used⟩
  have total : (DuvmBackend.capacity backend).1 = defaultMaxPages := by
    rw [LocalBackend.fst_capacity]
    exact UInt64.toNat_inj.mp ((LocalBackend.total_slots backend).symm.trans limit)
  have memory : (DuvmBackend.capacity (unused codec)).1 = defaultMaxPages := rfl
  rw [represents.pool, Pool.capacity, Pool.entries_ofBackends]
  simp only [List.foldl_cons, List.foldl_nil, total, memory]
  rfl

/-- A store succeeds exactly if the compression backend is not full. -/
theorem store_isOk_iff (represents : session.Represents backend) (data : PageBuffer)
    (few : (LawfulBackend.slots backend).issued < PageHandle.offsetLimit) :
    (∃ handle pool, session.pool.store data = some (.ok handle, pool)) ↔
      (LawfulBackend.slots backend).used < (LawfulBackend.slots backend).total := by
  rcases represents.store_cases data few with
    ⟨full, error, result⟩ | ⟨room, handle, after, result, _⟩
  · simp [result, full]
  · simp [result, room]

/-- Storing as many pages as there is room for. -/
theorem fill (represents : session.Represents backend) (data : PageBuffer) (count : ℕ)
    (room : (LawfulBackend.slots backend).used + count ≤ (LawfulBackend.slots backend).total)
    (few : (LawfulBackend.slots backend).issued + count ≤ PageHandle.offsetLimit) :
    ∃ final after,
      Transition.run PoolSession.step session (List.replicate count (.store data)) = some final ∧
      final.Represents after ∧
      (LawfulBackend.slots after).used = (LawfulBackend.slots backend).used + count ∧
      (LawfulBackend.slots after).issued = (LawfulBackend.slots backend).issued + count ∧
      (LawfulBackend.slots after).total = (LawfulBackend.slots backend).total := by
  induction count generalizing session backend with
  | zero => exact ⟨session, backend, rfl, represents, rfl, rfl, rfl⟩
  | succ count ih =>
      rcases represents.store_cases data (by omega) with
        ⟨full, _⟩ | ⟨_, handle, after, result, later, puts⟩
      · omega
      · have stepped : session.step (.store data) =
            some (session.record (.ofBackends (unused codec) after)
              ⟨.store data, .handle handle⟩) := by
          simp only [PoolSession.step, result]
        have used : (LawfulBackend.slots after).used = (LawfulBackend.slots backend).used + 1 := by
          rw [puts]
          rfl
        have issued : (LawfulBackend.slots after).issued =
            (LawfulBackend.slots backend).issued + 1 := by
          rw [puts]
          rfl
        have total : (LawfulBackend.slots after).total = (LawfulBackend.slots backend).total := by
          rw [puts]
          rfl
        rcases ih later (by omega) (by omega) with
          ⟨final, last, ran, represented, sumUsed, sumIssued, sameTotal⟩
        refine ⟨final, last, ?_, represented, by omega, by omega, by omega⟩
        rw [List.replicate_succ, Transition.run_cons_of_step _ stepped]
        exact ran

end Represents

/-- With fewer than `2 ^ 56` stores made, a store succeeds exactly if fewer pages are in use than
the compression backend may have; the pool reports twice as much. -/
theorem store_succeeds_iff (codec : Lz4) (calls : List PoolCall) (few : stores calls < 2 ^ 56) :
    ∃ session, Transition.run step (start codec) calls = some session ∧
      session.pool.capacity.1 = 2 * defaultMaxPages ∧
      ∀ data, (∃ handle pool, session.pool.store data = some (.ok handle, pool)) ↔
        session.pool.capacity.2 < defaultMaxPages := by
  rcases represents_of_run codec few.le with
    ⟨session, backend, reached, represents, issued, total⟩
  rcases represents.capacity_eq total with ⟨reported, used⟩
  refine ⟨session, reached, reported, ?_⟩
  intro data
  rw [represents.store_isOk_iff data (issued.trans_lt few), total, ← used,
    UInt64.lt_iff_toNat_lt]

/-- A page is stored and freed, then another one can be stored. -/
theorem store_succeeds_after_free :
    ∃ session, Transition.run step (start .literalLz4)
        [.store countingPage, .free (UInt64.ofNat (2 ^ 56))] = some session ∧
      session.pool.capacity.1 = 2 * defaultMaxPages ∧
      ∀ data, (∃ handle pool, session.pool.store data = some (.ok handle, pool)) ↔
        session.pool.capacity.2 < defaultMaxPages :=
  store_succeeds_iff .literalLz4 _ (by decide)

/-- Once the compression backend is full, half of what the pool reports is in use and every
store fails. -/
theorem store_fails_at_half :
    ∃ session, Transition.run step (start .literalLz4)
        (List.replicate (1024 * 1024) (.store .zero)) = some session ∧
      session.pool.capacity = (2 * defaultMaxPages, defaultMaxPages) ∧
      ∀ data, ∃ error pool, session.pool.store data = some (.error error, pool) := by
  have limit : defaultMaxPages.toNat = 1024 * 1024 := rfl
  rcases (represents_start .literalLz4).fill .zero (1024 * 1024) (by decide) (by decide) with
    ⟨session, backend, reached, represents, used, issued, total⟩
  change _ = 0 + 1024 * 1024 at used issued
  change _ = defaultMaxPages.toNat at total
  rcases represents.capacity_eq total with ⟨reported, counted⟩
  refine ⟨session, reached, Prod.ext reported (UInt64.toNat_inj.mp ?_), ?_⟩
  · rw [counted, used, limit, Nat.zero_add]
  · intro data
    have few : (LawfulBackend.slots backend).issued < PageHandle.offsetLimit := by
      rw [issued]
      decide
    rcases represents.store_cases data few with ⟨_, error, refused⟩ | ⟨room, _⟩
    · exact ⟨error, _, refused⟩
    · omega

end Duvm.Libduvm.PoolSession
