import Duvm.Library.Log
import Duvm.Library.Transition
import Duvm.Memserver.PageStore

/-!
# Clients of the memory server

Every connection of the memory server is served by a thread of its own, and the
threads share the page store. `alloc_offset` reads the counter `used`, bumps it
with a compare-and-exchange, and draws an offset from another counter; `free`
removes a page and drops `used` while it holds the lock of the pages. Between
two such steps of one thread the others may take any number of theirs.

The reservation made by the compare-and-exchange is a number in `used` and
nothing else. What is reserved for whom is written down beside the code's state:
the clients which have a reservation and no offset yet, the offsets which the
clients hold, and a log of what the server did for them. No step of the server
reads these books.
-/

namespace Duvm.Memserver

open Function (update)

universe u

namespace PageStore

/-- The head of the loop of `alloc_offset`: the value of `used`, if it is below the limit. -/
def observeUsed (store : PageStore) : Option UInt64 :=
  if store.used ≥ store.maxPages then none else some store.used

/-- `used.compare_exchange(expected, expected + 1)`. -/
def compareExchange (store : PageStore) (expected : UInt64) : Option PageStore :=
  if store.used = expected then some { store with used := expected + 1 } else none

/-- `next_offset.fetch_add(1)`. -/
def drawOffset (store : PageStore) : UInt64 × PageStore :=
  (store.nextOffset, { store with nextOffset := store.nextOffset + 1 })

/-- `pages.remove(&offset)`. -/
def removePage (store : PageStore) (offset : UInt64) : PageStore :=
  { store with pages := store.pages.erase offset }

/-- `used.fetch_sub(1)`. -/
def dropUsed (store : PageStore) : PageStore := { store with used := store.used - 1 }

end PageStore

/-- Where the thread of a client is: between two requests, at the head of the loop of
`alloc_offset`, before its compare-and-exchange, before the draw of its offset, or in `free`
with the page removed and the lock held. -/
inductive Phase where
  | idle
  | allocating
  | observed (used : UInt64)
  | reserved
  | freeing
deriving DecidableEq

/-- A client makes a request, or its thread takes the next step of one. -/
inductive ClientAction where
  | alloc
  | store (offset : UInt64) (data : PageBuffer)
  | load (offset : UInt64)
  | free (offset : UInt64)
  | proceed

/-- The offset which a request names. -/
def ClientAction.offset? : ClientAction → Option UInt64
  | .store offset _ => some offset
  | .load offset => some offset
  | .free offset => some offset
  | .alloc => none
  | .proceed => none

inductive ClientEvent (Client : Type u) where
  | granted (client : Client) (offset : UInt64)
  | full (client : Client)
  | stored (client : Client) (offset : UInt64) (data : PageBuffer) (accepted : Bool)
  | loaded (client : Client) (offset : UInt64) (data : Option PageBuffer)
  | freed (client : Client) (offset : UInt64) (released : Bool)
deriving DecidableEq

/-- The page store with the threads which share it, and the books: `pending` are the clients
with a reservation and no offset yet, `held` are the offsets which they have got and not freed. -/
structure Pool (Client : Type u) where
  store : PageStore
  phase : Client → Phase
  lock : Option Client
  pending : List Client
  held : List (Client × UInt64)
  log : List (ClientEvent Client)

namespace Pool

variable {Client : Type u}

def start (Client : Type u) (maxPages : UInt64) : Pool Client where
  store := .new maxPages
  phase := fun _ => .idle
  lock := none
  pending := []
  held := []
  log := []

def record (pool : Pool Client) (event : ClientEvent Client) : Pool Client :=
  { pool with log := pool.log ++ [event] }

variable [DecidableEq Client]

def enter (pool : Pool Client) (client : Client) (phase : Phase) : Pool Client :=
  { pool with phase := update pool.phase client phase }

/-- The thread has made its reservation. -/
def reserve (pool : Pool Client) (client : Client) (store : PageStore) : Pool Client :=
  { pool.enter client .reserved with store := store, pending := pool.pending ++ [client] }

/-- The thread has drawn an offset and answers with it. -/
def grant (pool : Pool Client) (client : Client) : Pool Client :=
  { (pool.enter client .idle).record (.granted client pool.store.drawOffset.1) with
    store := pool.store.drawOffset.2
    pending := pool.pending.erase client
    held := pool.held ++ [(client, pool.store.drawOffset.1)] }

/-- The page is stored, or refused because the pool is full. -/
def accept (pool : Pool Client) (client : Client) (offset : UInt64) (data : PageBuffer) :
    Pool Client :=
  { pool.record (.stored client offset data (pool.store.store offset data).1) with
    store := (pool.store.store offset data).2 }

/-- There is a page to free. The thread removes it and keeps the lock. -/
def remove (pool : Pool Client) (client : Client) (offset : UInt64) : Pool Client :=
  { (pool.enter client .freeing).record (.freed client offset true) with
    store := pool.store.removePage offset
    lock := some client
    held := pool.held.erase (client, offset) }

/-- There is no page to free. -/
def miss (pool : Pool Client) (client : Client) (offset : UInt64) : Pool Client :=
  { pool.record (.freed client offset false) with
    held := pool.held.erase (client, offset) }

/-- The counter is dropped and the lock released. -/
def release (pool : Pool Client) (client : Client) : Pool Client :=
  { pool.enter client .idle with store := pool.store.dropUsed, lock := none }

/-- The next step of the thread inside a request. -/
def proceed (pool : Pool Client) (client : Client) : Option (Pool Client) :=
  match pool.phase client with
  | .idle => none
  | .allocating =>
      match pool.store.observeUsed with
      | none => some ((pool.enter client .idle).record (.full client))
      | some used => some (pool.enter client (.observed used))
  | .observed used =>
      match pool.store.compareExchange used with
      | none => some (pool.enter client .allocating)
      | some store => some (pool.reserve client store)
  | .reserved => some (pool.grant client)
  | .freeing => some (pool.release client)

/-- A request is taken up when the thread is between two requests; the pages are reached only
while no other thread has locked them. -/
def step (pool : Pool Client) : Client × ClientAction → Option (Pool Client)
  | (client, .alloc) =>
      if pool.phase client = .idle then some (pool.enter client .allocating) else none
  | (client, .store offset data) =>
      if pool.phase client = .idle ∧ pool.lock = none then some (pool.accept client offset data)
      else none
  | (client, .load offset) =>
      if pool.phase client = .idle ∧ pool.lock = none then
        some (pool.record (.loaded client offset (pool.store.load offset)))
      else none
  | (client, .free offset) =>
      if pool.phase client = .idle ∧ pool.lock = none then
        if offset ∈ pool.store.pages then some (pool.remove client offset)
        else some (pool.miss client offset)
      else none
  | (client, .proceed) => pool.proceed client

/-- All that a step can do, with the guards under which it does it. -/
inductive Stepped (pool : Pool Client) : Client × ClientAction → Pool Client → Prop
  | entered {client : Client} {action : ClientAction} {phase : Phase}
      (left : pool.phase client ≠ .reserved ∧ pool.phase client ≠ .freeing)
      (entered : phase = .allocating ∨
        ∃ used, phase = .observed used ∧ used < pool.store.maxPages) :
      Stepped pool (client, action) (pool.enter client phase)
  | full {client : Client} (was : pool.phase client = .allocating) :
      Stepped pool (client, .proceed) ((pool.enter client .idle).record (.full client))
  | reserved {client : Client} (was : pool.phase client = .observed pool.store.used) :
      Stepped pool (client, .proceed)
        (pool.reserve client { pool.store with used := pool.store.used + 1 })
  | granted {client : Client} (was : pool.phase client = .reserved) :
      Stepped pool (client, .proceed) (pool.grant client)
  | stored {client : Client} {offset : UInt64} {data : PageBuffer} :
      Stepped pool (client, .store offset data) (pool.accept client offset data)
  | loaded {client : Client} {offset : UInt64} :
      Stepped pool (client, .load offset)
        (pool.record (.loaded client offset (pool.store.load offset)))
  | removed {client : Client} {offset : UInt64} (was : pool.phase client = .idle)
      (unlocked : pool.lock = none) (present : offset ∈ pool.store.pages) :
      Stepped pool (client, .free offset) (pool.remove client offset)
  | missed {client : Client} {offset : UInt64} (absent : offset ∉ pool.store.pages) :
      Stepped pool (client, .free offset) (pool.miss client offset)
  | released {client : Client} (was : pool.phase client = .freeing) :
      Stepped pool (client, .proceed) (pool.release client)

variable {client : Client} {pool : Pool Client}

theorem stepped_of_proceed {next : Pool Client} (stepped : pool.proceed client = some next) :
    Stepped pool (client, .proceed) next := by
  unfold proceed at stepped
  split at stepped
  · simp at stepped
  · next was =>
      simp only [PageStore.observeUsed] at stepped
      split at stepped
      · rw [← Option.some.inj stepped]
        exact .full was
      · next used observed =>
          rw [← Option.some.inj stepped]
          split at observed
          · simp at observed
          · next room =>
              refine .entered (by simp [was]) (Or.inr ⟨used, rfl, ?_⟩)
              rw [← Option.some.inj observed]
              exact UInt64.not_le.mp room
  · next used was =>
      simp only [PageStore.compareExchange] at stepped
      split at stepped
      · rw [← Option.some.inj stepped]
        exact .entered (by simp [was]) (Or.inl rfl)
      · next store exchanged =>
          rw [← Option.some.inj stepped]
          split at exchanged
          · next same =>
              subst same
              rw [← Option.some.inj exchanged]
              exact .reserved was
          · simp at exchanged
  · next was =>
      rw [← Option.some.inj stepped]
      exact .granted was
  · next was =>
      rw [← Option.some.inj stepped]
      exact .released was

theorem stepped_of_step {next : Pool Client} {action : Client × ClientAction}
    (stepped : pool.step action = some next) : Stepped pool action next := by
  rcases action with ⟨client, action⟩
  cases action with
  | alloc =>
      simp only [step, Option.ite_none_right_eq_some, Option.some.injEq] at stepped
      rcases stepped with ⟨idle, rfl⟩
      exact .entered (by simp [idle]) (Or.inl rfl)
  | store offset data =>
      simp only [step, Option.ite_none_right_eq_some, Option.some.injEq] at stepped
      rcases stepped with ⟨_, rfl⟩
      exact .stored
  | load offset =>
      simp only [step, Option.ite_none_right_eq_some, Option.some.injEq] at stepped
      rcases stepped with ⟨_, rfl⟩
      exact .loaded
  | free offset =>
      simp only [step, Option.ite_none_right_eq_some] at stepped
      rcases stepped with ⟨⟨idle, unlocked⟩, stepped⟩
      split at stepped
      · next present =>
          rw [← Option.some.inj stepped]
          exact .removed idle unlocked present
      · next absent =>
          rw [← Option.some.inj stepped]
          exact .missed absent
  | proceed => exact stepped_of_proceed stepped

/-- A request for an offset is served as `alloc_offset` says when no other thread gets in
between. -/
theorem run_alloc_undisturbed (idle : pool.phase client = .idle)
    (room : pool.store.used < pool.store.maxPages) :
    ∃ next, Transition.run step pool
        [(client, .alloc), (client, .proceed), (client, .proceed), (client, .proceed)] =
          some next ∧
      pool.store.allocOffset = (some pool.store.nextOffset, next.store) ∧
      next.log = pool.log ++ [.granted client pool.store.nextOffset] := by
  have observed : pool.store.observeUsed = some pool.store.used := by
    rw [PageStore.observeUsed, if_neg (UInt64.not_le.mpr room)]
  have begins : pool.step (client, .alloc) = some (pool.enter client .allocating) := if_pos idle
  have observes : (pool.enter client .allocating).step (client, .proceed) =
      some ((pool.enter client .allocating).enter client (.observed pool.store.used)) := by
    simp [step, proceed, enter, observed]
  have reserves : ((pool.enter client .allocating).enter client
      (.observed pool.store.used)).step (client, .proceed) =
        some (((pool.enter client .allocating).enter client (.observed pool.store.used)).reserve
          client { pool.store with used := pool.store.used + 1 }) := by
    simp [step, proceed, enter, PageStore.compareExchange]
  have grants : ∀ middle : Pool Client, middle.phase client = .reserved →
      middle.step (client, .proceed) = some (middle.grant client) := by
    intro middle isReserved
    simp [step, proceed, isReserved]
  have ran := (Transition.run_cons_of_step _ begins).trans
    ((Transition.run_cons_of_step _ observes).trans
      ((Transition.run_cons_of_step _ reserves).trans
        (Transition.run_cons_of_step [] (grants _ (by simp [reserve, enter])))))
  exact ⟨_, ran, PageStore.allocOffset_of_lt room, rfl⟩

/-- A page is freed as `free` says when no other thread gets in between. -/
theorem run_free_undisturbed {offset : UInt64} (idle : pool.phase client = .idle)
    (unlocked : pool.lock = none) (present : offset ∈ pool.store.pages) :
    ∃ next, Transition.run step pool [(client, .free offset), (client, .proceed)] = some next ∧
      pool.store.free offset = (true, next.store) := by
  have removes : pool.step (client, .free offset) = some (pool.remove client offset) := by
    simp [step, idle, unlocked, present]
  have releases : (pool.remove client offset).step (client, .proceed) =
      some ((pool.remove client offset).release client) := by
    simp [step, proceed, remove, enter, record]
  have ran := (Transition.run_cons_of_step _ removes).trans
    (Transition.run_cons_of_step [] releases)
  exact ⟨_, ran, PageStore.free_of_mem present⟩

end Pool

/-- The number of requests to free an offset which found no page. -/
def leaks {Client : Type u} (log : List (ClientEvent Client)) : ℕ :=
  log.countP fun event =>
    match event with
    | .freed _ _ released => !released
    | _ => false

namespace Pool

variable {Client : Type u} [DecidableEq Client]

/-- Clients free only the offsets which they hold. -/
def FreesHeld (pool : Pool Client) (action : Client × ClientAction) : Prop :=
  ∀ offset, action.2 = .free offset → (action.1, offset) ∈ pool.held

instance decidableHeld (pool : Pool Client) (client : Client) (offset : UInt64) :
    Decidable ((client, offset) ∈ pool.held) :=
  inferInstance

/-- The threads which have removed a page and not dropped the counter yet. -/
def dropping (pool : Pool Client) : ℕ := pool.lock.toList.length

/-- The counter is the number of reservations, pending and held ones, of the page which is just
being freed, and of the reservations which were lost because there was no page to free. -/
structure Counted (pool : Pool Client) : Prop where
  limited : pool.store.used ≤ pool.store.maxPages
  observed : ∀ client used, pool.phase client = .observed used → used < pool.store.maxPages
  pending : ∀ client, pool.phase client = .reserved ↔ client ∈ pool.pending
  distinct : pool.pending.Nodup
  locked : ∀ client, pool.phase client = .freeing ↔ pool.lock = some client
  used : pool.store.used.toNat =
    pool.pending.length + pool.held.length + pool.dropping + leaks pool.log

omit [DecidableEq Client] in
theorem counted_start (maxPages : UInt64) : (start Client maxPages).Counted where
  limited := UInt64.le_iff_toNat_le.mpr (Nat.zero_le _)
  observed := by simp [start]
  pending := by simp [start]
  distinct := List.nodup_nil
  locked := by simp [start]
  used := rfl

theorem phase_enter (pool : Pool Client) (client : Client) (phase : Phase) (other : Client) :
    (pool.enter client phase).phase other = if other = client then phase else pool.phase other :=
  Function.update_apply _ _ _ _

variable {client : Client} {pool : Pool Client} {phase : Phase}

/-- The threads which are in a phase, when one thread enters another phase. -/
theorem phase_enter_iff {target : Phase} (entered : phase ≠ target) (other : Client) :
    (pool.enter client phase).phase other = target ↔
      other ≠ client ∧ pool.phase other = target := by
  rw [phase_enter]
  split
  · next same => simp [same, entered]
  · next different => simp [different]

/-- The threads which are in a phase, when one thread enters it. -/
theorem phase_enter_self_iff (other : Client) :
    (pool.enter client phase).phase other = phase ↔
      other = client ∨ pool.phase other = phase := by
  rw [phase_enter]
  split
  · next same => simp [same]
  · next different => simp [different]

theorem Counted.observed_enter (counted : pool.Counted)
    (entered : ∀ used, phase = .observed used → used < pool.store.maxPages) (other : Client)
    (used : UInt64) (isObserved : (pool.enter client phase).phase other = .observed used) :
    used < pool.store.maxPages := by
  rw [phase_enter] at isObserved
  split at isObserved
  · exact entered used isObserved
  · exact counted.observed other used isObserved

omit [DecidableEq Client] in
theorem Counted.notPending (counted : pool.Counted) (elsewhere : pool.phase client ≠ .reserved) :
    client ∉ pool.pending :=
  fun isPending => elsewhere ((counted.pending client).mpr isPending)

/-- The clients which wait for their offset stay the same. -/
theorem Counted.pending_enter (counted : pool.Counted) (left : pool.phase client ≠ .reserved)
    (entered : phase ≠ .reserved) (other : Client) :
    (pool.enter client phase).phase other = .reserved ↔ other ∈ pool.pending := by
  rw [phase_enter_iff entered, counted.pending other]
  constructor
  · exact And.right
  · intro isPending
    refine ⟨?_, isPending⟩
    rintro rfl
    exact counted.notPending left isPending

/-- The thread which holds the lock stays the same. -/
theorem Counted.locked_enter (counted : pool.Counted) (left : pool.phase client ≠ .freeing)
    (entered : phase ≠ .freeing) (other : Client) :
    (pool.enter client phase).phase other = .freeing ↔ pool.lock = some other := by
  rw [phase_enter_iff entered, counted.locked other]
  constructor
  · exact And.right
  · intro isLocked
    refine ⟨?_, isLocked⟩
    rintro rfl
    exact left ((counted.locked _).mpr isLocked)

/-- A thread moves inside `alloc_offset`, or gives up. -/
theorem Counted.enter (counted : pool.Counted)
    (left : pool.phase client ≠ .reserved ∧ pool.phase client ≠ .freeing)
    (entered : phase ≠ .reserved ∧ phase ≠ .freeing)
    (observed : ∀ used, phase = .observed used → used < pool.store.maxPages) :
    (pool.enter client phase).Counted where
  limited := counted.limited
  observed := counted.observed_enter observed
  pending := counted.pending_enter left.1 entered.1
  distinct := counted.distinct
  locked := counted.locked_enter left.2 entered.2
  used := counted.used

omit [DecidableEq Client] in
theorem leaks_concat (log : List (ClientEvent Client)) (event : ClientEvent Client) :
    leaks (log ++ [event]) = leaks log + leaks [event] :=
  List.countP_append

omit [DecidableEq Client] in
/-- Events which free nothing do not count. -/
theorem Counted.record {event : ClientEvent Client} (counted : pool.Counted)
    (harmless : leaks [event] = 0) : (pool.record event).Counted :=
  { counted with
    used := by
      simp only [Pool.record, leaks_concat, harmless]
      exact counted.used }

theorem Counted.reserve (counted : pool.Counted)
    (was : pool.phase client = .observed pool.store.used) :
    (pool.reserve client { pool.store with used := pool.store.used + 1 }).Counted := by
  have room := counted.observed client _ was
  have bumped := PageStore.toNat_used_add_one room
  have below := UInt64.lt_iff_toNat_lt.mp room
  have notPending : client ∉ pool.pending := counted.notPending (by simp [was])
  refine ⟨?_, counted.observed_enter nofun, ?_, ?_,
    counted.locked_enter (by simp [was]) nofun, ?_⟩
  · apply UInt64.le_iff_toNat_le.mpr
    change (pool.store.used + 1).toNat ≤ pool.store.maxPages.toNat
    omega
  · intro other
    change (pool.enter client .reserved).phase other = .reserved ↔ other ∈ pool.pending ++ [client]
    rw [phase_enter_self_iff, counted.pending other, List.mem_append, List.mem_singleton]
    exact or_comm
  · apply List.nodup_append.mpr
    refine ⟨counted.distinct, List.nodup_singleton client, ?_⟩
    intro other isPending last isLast
    rw [List.mem_singleton.mp isLast]
    rintro rfl
    exact notPending isPending
  · have counts := counted.used
    change (pool.store.used + 1).toNat = (pool.pending ++ [client]).length + pool.held.length +
      pool.dropping + leaks pool.log
    rw [List.length_append, List.length_singleton]
    omega

theorem Counted.grant (counted : pool.Counted) (was : pool.phase client = .reserved) :
    (pool.grant client).Counted := by
  have isPending : client ∈ pool.pending := (counted.pending client).mp was
  refine ⟨counted.limited, counted.observed_enter nofun, ?_, counted.distinct.erase client,
    counted.locked_enter (by simp [was]) nofun, ?_⟩
  · intro other
    change (pool.enter client .idle).phase other = .reserved ↔ other ∈ pool.pending.erase client
    rw [phase_enter_iff (by simp), counted.distinct.mem_erase_iff, counted.pending other]
  · have counts := counted.used
    have shorter := List.length_erase_of_mem isPending
    have positive := List.length_pos_of_mem isPending
    change pool.store.used.toNat = (pool.pending.erase client).length +
      (pool.held ++ [(client, pool.store.nextOffset)]).length + pool.dropping +
        leaks (pool.log ++ [.granted client pool.store.nextOffset])
    rw [leaks_concat, List.length_append, List.length_singleton, shorter]
    change _ = _ + (leaks pool.log + 0)
    omega

theorem Counted.remove {offset : UInt64} (counted : pool.Counted)
    (was : pool.phase client = .idle) (unlocked : pool.lock = none)
    (holds : (client, offset) ∈ pool.held) : (pool.remove client offset).Counted := by
  refine ⟨counted.limited, counted.observed_enter nofun,
    counted.pending_enter (by simp [was]) nofun, counted.distinct, ?_, ?_⟩
  · intro other
    change (pool.enter client .freeing).phase other = .freeing ↔ some client = some other
    rw [phase_enter_self_iff, counted.locked other, unlocked, Option.some.injEq]
    simp [eq_comm]
  · have counts := counted.used
    have shorter := List.length_erase_of_mem holds
    have positive := List.length_pos_of_mem holds
    simp only [dropping, unlocked, Option.toList_none, List.length_nil] at counts
    change pool.store.used.toNat = pool.pending.length +
      (pool.held.erase (client, offset)).length + 1 +
        leaks (pool.log ++ [.freed client offset true])
    rw [leaks_concat, shorter]
    change _ = _ + (leaks pool.log + 0)
    omega

theorem Counted.miss {offset : UInt64} (counted : pool.Counted)
    (holds : (client, offset) ∈ pool.held) :
    (pool.miss client offset).Counted := by
  refine ⟨counted.limited, counted.observed, counted.pending, counted.distinct,
    counted.locked, ?_⟩
  have counts := counted.used
  have shorter := List.length_erase_of_mem holds
  have positive := List.length_pos_of_mem holds
  change pool.store.used.toNat = pool.pending.length +
    (pool.held.erase (client, offset)).length + pool.dropping +
      leaks (pool.log ++ [.freed client offset false])
  rw [leaks_concat, shorter]
  change _ = _ + (leaks pool.log + 1)
  omega

theorem Counted.release (counted : pool.Counted) (was : pool.phase client = .freeing) :
    (pool.release client).Counted := by
  have isLocked := (counted.locked client).mp was
  have counts := counted.used
  simp only [dropping, isLocked, Option.toList_some, List.length_singleton] at counts
  have positive : 0 < pool.store.used.toNat := by omega
  have dropped := PageStore.toNat_used_sub_one positive
  have below := UInt64.le_iff_toNat_le.mp counted.limited
  refine ⟨?_, counted.observed_enter nofun, counted.pending_enter (by simp [was]) nofun,
    counted.distinct, ?_, ?_⟩
  · apply UInt64.le_iff_toNat_le.mpr
    change (pool.store.used - 1).toNat ≤ pool.store.maxPages.toNat
    omega
  · intro other
    change (pool.enter client .idle).phase other = .freeing ↔ none = some other
    rw [phase_enter_iff (by simp), counted.locked other, isLocked]
    simp [eq_comm]
  · change (pool.store.used - 1).toNat = pool.pending.length + pool.held.length + 0 +
      leaks pool.log
    omega

omit [DecidableEq Client] in
theorem Counted.accept {offset : UInt64} {data : PageBuffer} (counted : pool.Counted) :
    (pool.accept client offset data).Counted := by
  have recorded : (pool.record
      (.stored client offset data (pool.store.store offset data).1)).Counted :=
    counted.record rfl
  refine ⟨?_, ?_, recorded.pending, recorded.distinct, recorded.locked, ?_⟩
  · simpa [Pool.accept, Pool.record] using recorded.limited
  · simpa [Pool.accept, Pool.record] using recorded.observed
  · simpa [Pool.accept, Pool.record, dropping] using recorded.used

/-- Every step of clients which free what they hold keeps the count. -/
theorem Counted.stepped {next : Pool Client} {action : Client × ClientAction}
    (counted : pool.Counted) (frees : pool.FreesHeld action) (stepped : Stepped pool action next) :
    next.Counted := by
  cases stepped with
  | entered left entered =>
      rcases entered with rfl | ⟨used, rfl, below⟩
      · exact counted.enter left (by simp) nofun
      · refine counted.enter left (by simp) ?_
        intro other isOther
        rw [← Phase.observed.inj isOther]
        exact below
  | full was => exact (counted.enter (by simp [was]) (by simp) (by simp)).record rfl
  | reserved was => exact counted.reserve was
  | granted was => exact counted.grant was
  | stored => exact counted.accept
  | loaded => exact counted.record rfl
  | removed was unlocked present => exact counted.remove was unlocked (frees _ rfl)
  | missed absent => exact counted.miss (frees _ rfl)
  | released was => exact counted.release was

end Pool

end Duvm.Memserver
