import Duvm.Memserver.Clients

/-!
# Recovery of the memory server's capacity

A reservation is given back by the request which frees its offset, but only if
there is a page to remove. When clients have freed everything they were given,
the counter is the number of their requests which found no page: a client which
got an offset, failed to store its page and freed the offset has used up one
page of the capacity for good.
-/

namespace Duvm.Memserver

universe u

namespace PageStore

/-- The given number of requests for an offset, all of which succeed. -/
def allocMany : ℕ → PageStore → Option PageStore
  | 0, store => some store
  | count + 1, store =>
      match store.allocOffset with
      | (some _, store) => allocMany count store
      | (none, _) => none

theorem allocMany_isSome_iff {store : PageStore} (limited : store.used ≤ store.maxPages)
    (count : ℕ) :
    (allocMany count store).isSome ↔ store.used.toNat + count ≤ store.maxPages.toNat := by
  induction count generalizing store with
  | zero => simpa [allocMany] using UInt64.le_iff_toNat_le.mp limited
  | succ count ih =>
      by_cases room : store.used < store.maxPages
      · have bumped := toNat_used_add_one room
        have below := UInt64.lt_iff_toNat_lt.mp room
        have stillLimited : store.used + 1 ≤ store.maxPages :=
          UInt64.le_iff_toNat_le.mpr (by omega)
        simp only [allocMany, allocOffset_of_lt room]
        rw [ih stillLimited]
        change (store.used + 1).toNat + count ≤ store.maxPages.toNat ↔ _
        omega
      · have full : store.maxPages ≤ store.used := UInt64.not_lt.mp room
        have atLimit := UInt64.le_iff_toNat_le.mp full
        simp only [allocMany, allocOffset_of_le full, Option.isSome_none, Bool.false_eq_true,
          false_iff]
        omega

/-- Nothing is reserved, and as many pages can be had as the server has. -/
def Recovered (store : PageStore) : Prop :=
  store.used = 0 ∧ (store.allocMany store.maxPages.toNat).isSome

theorem recovered_iff {store : PageStore} (limited : store.used ≤ store.maxPages) :
    store.Recovered ↔ store.used.toNat = 0 := by
  constructor
  · rintro ⟨empty, _⟩
    rw [empty]
    rfl
  · intro empty
    refine ⟨UInt64.toNat_inj.mp empty, (allocMany_isSome_iff limited _).mpr ?_⟩
    omega

end PageStore

namespace Pool

variable {Client : Type u}

/-- A request to free an offset comes when there is a page under it. -/
def FreesPage (pool : Pool Client) : Client × ClientAction → Prop
  | (_, .free offset) => offset ∈ pool.store.pages
  | _ => True

instance (pool : Pool Client) :
    (action : Client × ClientAction) → Decidable (pool.FreesPage action)
  | (_, .free offset) => inferInstanceAs (Decidable (offset ∈ pool.store.pages))
  | (_, .alloc) | (_, .store _ _) | (_, .load _) | (_, .proceed) => isTrue trivial

variable [DecidableEq Client]

variable {pool : Pool Client}

/-- A request leaks exactly if it is one to free an offset without a page. -/
theorem leaks_eq_zero_iff {next : Pool Client} {action : Client × ClientAction}
    (stepped : pool.step action = some next) :
    leaks next.log = 0 ↔ leaks pool.log = 0 ∧ pool.FreesPage action := by
  rcases action with ⟨client, action⟩
  cases action with
  | free offset =>
      simp only [step, Option.ite_none_right_eq_some] at stepped
      rcases stepped with ⟨_, stepped⟩
      split at stepped
      · next present =>
          cases stepped
          simp [leaks, remove, record, enter, FreesPage, present]
      · next absent =>
          cases stepped
          simp [leaks, miss, record, FreesPage, absent]
  | alloc | store | load | proceed =>
      have same : leaks next.log = leaks pool.log := by
        cases stepped_of_step stepped <;>
          simp [leaks, enter, record, reserve, grant, accept, release]
      simp [same, FreesPage]

/-- Once the clients have freed every offset which they were given, the capacity is back exactly
if there was a page under each offset when it was freed. -/
theorem recovered_iff_pages_found (maxPages : UInt64) {actions : List (Client × ClientAction)}
    (frees : Transition.Along step FreesHeld (start Client maxPages) actions)
    (reached : Transition.run step (start Client maxPages) actions = some pool)
    (quiet : ∀ client, pool.phase client = .idle) (allFreed : pool.held = []) :
    pool.store.Recovered ↔ Transition.Along step FreesPage (start Client maxPages) actions := by
  have counted : pool.Counted := by
    refine Transition.run_induction (counted_start maxPages) ?_ frees reached
    intro current action next counted good stepped
    exact counted.stepped good (stepped_of_step stepped)
  have nonePending : pool.pending = [] := by
    apply List.eq_nil_iff_forall_not_mem.mpr
    intro client isPending
    have isReserved := (counted.pending client).mpr isPending
    simp [quiet client] at isReserved
  have unlocked : pool.lock = none := by
    apply Option.eq_none_iff_forall_ne_some.mpr
    intro client isLocked
    have isFreeing := (counted.locked client).mpr isLocked
    simp [quiet client] at isFreeing
  have counts := counted.used
  simp only [nonePending, allFreed, dropping, unlocked, List.length_nil, Option.toList_none,
    Nat.zero_add] at counts
  have flagged := @Transition.flag_iff_along _ _ step FreesPage (fun _ => True)
    (start Client maxPages) pool actions (fun pool => leaks pool.log = 0) trivial
    (fun _ _ _ _ _ => trivial) (fun _ _ _ _ stepped => leaks_eq_zero_iff stepped) reached
  rw [PageStore.recovered_iff counted.limited, counts, flagged]
  exact and_iff_right rfl

omit [DecidableEq Client] in
theorem freesHeld_free {client : Client} {offset : UInt64} :
    (client, offset) ∈ pool.held ↔ pool.FreesHeld (client, .free offset) := by
  simp [FreesHeld]

omit [DecidableEq Client] in
theorem freesHeld_of_ne {action : Client × ClientAction}
    (other : ∀ offset, action.2 ≠ .free offset) : pool.FreesHeld action := by
  intro offset isFree
  exact absurd isFree (other offset)

instance (pool : Pool Client) :
    (action : Client × ClientAction) → Decidable (pool.FreesHeld action)
  | (_, .free _) => decidable_of_iff _ freesHeld_free
  | (_, .alloc) | (_, .store _ _) | (_, .load _) | (_, .proceed) =>
      isTrue (freesHeld_of_ne nofun)

/-- An offset is allocated, stored to and freed. -/
def storeAndFree : List (Unit × ClientAction) :=
  [((), .alloc), ((), .proceed), ((), .proceed), ((), .proceed), ((), .store 0 .zero),
    ((), .free 0), ((), .proceed)]

theorem storeAndFree_recovered :
    ∃ pool, Transition.run step (start Unit 1) storeAndFree = some pool ∧
      (∀ client, pool.phase client = .idle) ∧ pool.held = [] ∧ pool.store.Recovered := by
  have ran : ∃ pool, Transition.run step (start Unit 1) storeAndFree = some pool ∧
      pool.phase () = .idle ∧ pool.held = [] := ⟨_, rfl, rfl, rfl⟩
  rcases ran with ⟨pool, reached, quiet, allFreed⟩
  have frees : Transition.Along step FreesHeld (start Unit 1) storeAndFree := by decide
  exact ⟨pool, reached, fun _ => quiet, allFreed,
    (recovered_iff_pages_found 1 frees reached (fun _ => quiet) allFreed).mpr (by decide)⟩

/-- The page does not arrive before its offset is freed. -/
def freeWithoutStore : List (Unit × ClientAction) :=
  [((), .alloc), ((), .proceed), ((), .proceed), ((), .proceed), ((), .free 0)]

/-- Everything is freed, and the only page of the server is gone for good. -/
theorem capacity_lost_without_store :
    Transition.Along step FreesHeld (start Unit 1) freeWithoutStore ∧
    ∃ pool, Transition.run step (start Unit 1) freeWithoutStore = some pool ∧
      pool.phase () = .idle ∧ pool.held = [] ∧ pool.store.used = 1 ∧
      pool.store.allocOffset.1 = none ∧ ¬pool.store.Recovered := by
  refine ⟨by decide, _, rfl, rfl, rfl, rfl, rfl, ?_⟩
  rintro ⟨empty, _⟩
  exact absurd empty (by decide)

end Pool

end Duvm.Memserver
