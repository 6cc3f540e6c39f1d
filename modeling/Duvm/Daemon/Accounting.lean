import Duvm.Daemon.Moves
import Duvm.Daemon.Restarts

/-!
# Counted slots and tracked pages

A backend counts the slots which it has given out, and the policy counts the
pages which it tracks there. `Tally` says how a relation between a backend and a
number of pages has to follow the operations of the backend; such a relation then
holds between every backend of an engine and the number of its tracked pages.

A TCP backend counts every tracked page. It counts more than these when a page
was given up and could not be freed, and only then.
-/

namespace Duvm.Daemon

universe u v w

namespace PolicyEngine

/-- One page for each entry of the backend. -/
theorem pagesInBackend_eq_total (policy : PolicyEngine) (id : UInt8) :
    policy.pagesInBackend id =
      HashMap.total (fun entry => if entry.backendId = id then 1 else 0) policy.pages := by
  simp only [pagesInBackend, HashMap.total]
  induction policy.pages.entries with
  | nil => rfl
  | cons page rest ih =>
      simp only [List.filter_cons, List.map_cons, List.sum_cons, ← ih]
      split
      · next here =>
          rw [if_pos (of_decide_eq_true here), List.length_cons, Nat.add_comm]
      · next elsewhere =>
          rw [if_neg fun same => elsewhere (decide_eq_true same), Nat.zero_add]

variable {entry : PageMeta} {offset : UInt64} {policy : PolicyEngine}

theorem pagesInBackend_pos {id : UInt8} (listed : policy.lookup offset = some entry)
    (onBackend : entry.backendId = id) :
    0 < policy.pagesInBackend id := by
  have counted := HashMap.le_total (fun entry => if entry.backendId = id then 1 else 0) listed
  rw [pagesInBackend_eq_total]
  rw [if_pos onBackend] at counted
  exact counted

theorem pagesInBackend_remove (listed : policy.lookup offset = some entry) (id : UInt8) :
    (policy.remove offset).2.pagesInBackend id + (if entry.backendId = id then 1 else 0) =
      policy.pagesInBackend id := by
  rw [pagesInBackend_eq_total, pagesInBackend_eq_total]
  exact HashMap.total_erase _ listed

theorem pagesInBackend_recordStore (untracked : policy.lookup offset = none) (env : CallEnv)
    (handle : PageHandle) (backendId : UInt8) (tier : Tier) (id : UInt8) :
    (policy.recordStore env offset handle backendId tier).pagesInBackend id =
      policy.pagesInBackend id + if backendId = id then 1 else 0 := by
  rw [pagesInBackend_eq_total, pagesInBackend_eq_total]
  exact HashMap.total_insert_of_notMem _ _ (AList.lookup_eq_none.mp untracked)

theorem pagesInBackend_replace {updated : PageMeta} (listed : policy.lookup offset = some entry)
    (sameBackend : updated.backendId = entry.backendId) (id : UInt8) :
    pagesInBackend ⟨policy.pages.replace offset updated⟩ id = policy.pagesInBackend id := by
  have totals := HashMap.total_replace (fun entry => if entry.backendId = id then 1 else 0)
    updated listed
  rw [sameBackend] at totals
  rw [pagesInBackend_eq_total, pagesInBackend_eq_total]
  exact Nat.add_right_cancel totals

end PolicyEngine

/-- A relation between a backend and a number of pages which follows the operations: a slot more
with every handle given out, and one less when it is freed, even if that fails. -/
structure Tally {Backend : Type u} [DuvmBackend Backend] (Owed : Backend → ℕ → Prop) : Prop where
  allocated : ∀ {backend after handle count}, Owed backend count →
    DuvmBackend.allocPage backend = (.ok handle, after) → Owed after (count + 1)
  denied : ∀ {backend after error count}, Owed backend count →
    DuvmBackend.allocPage backend = (.err error, after) → Owed after count
  stored : ∀ {backend count}, Owed backend count → ∀ handle data,
    Owed (DuvmBackend.storePage backend handle data).2 count
  loaded : ∀ {backend count}, Owed backend count → ∀ handle,
    Owed (DuvmBackend.loadPage backend handle).2 count
  freed : ∀ {backend count}, Owed backend (count + 1) → ∀ handle,
    Owed (DuvmBackend.freePage backend handle).2 count

/-- A result with a changed backend comes from one with the backend before the change. -/
theorem exists_of_map_eq {Result : Type u} {Backend : Type v} {After : Type w}
    {change : Backend → After} {pair : Result × Backend} {result : Result} {after : After}
    (same : Prod.map id change pair = (result, after)) :
    ∃ backend, pair = (result, backend) ∧ after = change backend := by
  rcases pair with ⟨outcome, backend⟩
  rcases same with ⟨⟩
  exact ⟨backend, rfl, rfl⟩

/-- Nothing is claimed of the backends of another kind. -/
theorem Tally.among {Backend : Type u} [DuvmBackend Backend] {Owed : Backend → ℕ → Prop}
    (tally : Tally Owed) (Other : Type v) [DuvmBackend Other] :
    Tally (Sum.elim Owed fun (_ : Other) _ => True) where
  allocated := by
    rintro (backend | other) after handle count owed allocated
    · rcases exists_of_map_eq allocated with ⟨issued, isIssued, rfl⟩
      exact tally.allocated owed isIssued
    · rcases exists_of_map_eq allocated with ⟨issued, _, rfl⟩
      trivial
  denied := by
    rintro (backend | other) after error count owed refused
    · rcases exists_of_map_eq refused with ⟨same, isSame, rfl⟩
      exact tally.denied owed isSame
    · rcases exists_of_map_eq refused with ⟨same, _, rfl⟩
      trivial
  stored := by
    rintro (backend | other) count owed handle data
    · exact tally.stored owed handle data
    · trivial
  loaded := by
    rintro (backend | other) count owed handle
    · exact tally.loaded owed handle
    · trivial
  freed := by
    rintro (backend | other) count owed handle
    · exact tally.freed owed handle
    · trivial

namespace Engine

variable {Backend : Type u} [DuvmBackend Backend] {Owed : Backend → ℕ → Prop}
  {engine next : Engine Backend}

omit [DuvmBackend Backend] in
/-- The relation holds between every backend and the number of its tracked pages. -/
def Tallied (Owed : Backend → ℕ → Prop) (engine : Engine Backend) : Prop :=
  ∀ id backend, engine.backends.lookup id = some backend →
    Owed backend (engine.policy.pagesInBackend id)

omit [DuvmBackend Backend] in
/-- A change of one backend and of the number of its pages. -/
theorem Tallied.change (tallied : engine.Tallied Owed) {id : UInt8} {backend after : Backend}
    (found : engine.backends.lookup id = some backend)
    (backends : next.backends = engine.backends.replace id after)
    (others : ∀ other, other ≠ id →
      next.policy.pagesInBackend other = engine.policy.pagesInBackend other)
    (owed : Owed after (next.policy.pagesInBackend id)) : next.Tallied Owed := by
  intro other changed isFound
  rw [backends] at isFound
  rcases HashMap.new_or_old found isFound with ⟨rfl, rfl⟩ | ⟨distinct, wasFound⟩
  · exact owed
  · rw [others other distinct]
    exact tallied other changed wasFound

theorem Tallied.drop (tally : Tally Owed) (tallied : engine.Tallied Owed) {offset : UInt64}
    {entry : PageMeta} (listed : engine.policy.lookup offset = some entry) :
    Tallied Owed ((engine.untrack offset).freeOn entry.backendId entry.handle).2 := by
  have removed := PolicyEngine.pagesInBackend_remove listed
  have others : ∀ other, other ≠ entry.backendId →
      (engine.policy.remove offset).2.pagesInBackend other =
        engine.policy.pagesInBackend other := by
    intro other distinct
    have counted := removed other
    rw [if_neg (Ne.symm distinct)] at counted
    exact counted
  unfold freeOn
  cases found : (engine.untrack offset).backends.lookup entry.backendId with
  | none =>
      intro other backend isFound
      have distinct : other ≠ entry.backendId := by
        rintro rfl
        cases found.symm.trans isFound
      change Owed backend ((engine.policy.remove offset).2.pagesInBackend other)
      rw [others other distinct]
      exact tallied other backend isFound
  | some backend =>
      apply tallied.change found rfl others
      apply tally.freed
      have counted := removed entry.backendId
      rw [if_pos rfl] at counted
      change Owed backend ((engine.policy.remove offset).2.pagesInBackend entry.backendId + 1)
      rw [counted]
      exact tallied entry.backendId backend found

theorem Tallied.move (tally : Tally Owed) {request : Option (UInt64 × PageBuffer)}
    (tallied : engine.Tallied Owed) (move : Move request engine next) : next.Tallied Owed := by
  cases move with
  | counted stats => exact tallied
  | dropped offset entry listed => exact tallied.drop tally listed
  | retouched offset entry updated listed _ sameBackend =>
      intro id backend found
      change Owed backend (PolicyEngine.pagesInBackend ⟨_⟩ id)
      rw [PolicyEngine.pagesInBackend_replace listed sameBackend]
      exact tallied id backend found
  | asked offset entry backend listed found =>
      exact tallied.change found rfl (fun _ _ => rfl) (tally.loaded (tallied _ _ found) _)
  | denied id backend after error found refused =>
      exact tallied.change found rfl (fun _ _ => rfl) (tally.denied (tallied _ _ found) refused)
  | returned id backend issued failed handle data error found allocated refused =>
      have owed := tally.stored (tally.allocated (tallied _ _ found) allocated) handle data
      rw [refused] at owed
      exact tallied.change found rfl (fun _ _ => rfl) (tally.freed owed handle)
  | placed env tier id backend issued after handle offset data _ untracked found allocated
      stored =>
      have owed := tally.stored (tally.allocated (tallied _ _ found) allocated) handle data
      have counted := PolicyEngine.pagesInBackend_recordStore untracked env handle id tier
      rw [stored] at owed
      refine tallied.change found rfl ?_ ?_
      · intro other distinct
        exact (counted other).trans (by rw [if_neg (Ne.symm distinct), Nat.add_zero])
      · rw [counted, if_pos rfl]
        exact owed

end Engine

/-- In every state of a session the tally is right, if it is so for the backends at the start. -/
theorem Session.tallied_of_run {Backend : Type u} [DuvmBackend Backend]
    {Owed : Backend → ℕ → Prop} (tally : Tally Owed) {backends : HashMap UInt8 Backend}
    {actions : List (CallEnv × Call)} {session : Session Backend}
    (fresh : ∀ id backend, backends.lookup id = some backend → Owed backend 0)
    (reached : Transition.run Session.step (.start backends) actions = some session) :
    session.engine.Tallied Owed := by
  apply Session.invariant_of_run (Engine.Tallied Owed) _ _ reached
  · intro request current after tallied move
    exact tallied.move tally move
  · intro id backend found
    exact fresh id backend found

/-- A backend, and how many of its slots were to be freed and were not. -/
structure Watched (Backend : Type u) where
  backend : Backend
  failedFrees : ℕ

namespace Watched

variable {Backend : Type u} [DuvmBackend Backend]

omit [DuvmBackend Backend] in
def withBackend (watched : Watched Backend) (backend : Backend) : Watched Backend :=
  { watched with backend }

def freePage (watched : Watched Backend) (handle : PageHandle) :
    Except DuvmError Unit × Watched Backend :=
  match DuvmBackend.freePage watched.backend handle with
  | (.ok (), backend) => (.ok (), watched.withBackend backend)
  | (.error error, backend) => (.error error, ⟨backend, watched.failedFrees + 1⟩)

instance : DuvmBackend (Watched Backend) where
  tier watched := DuvmBackend.tier watched.backend
  allocPage watched := Prod.map id watched.withBackend (DuvmBackend.allocPage watched.backend)
  freePage := freePage
  storePage watched handle data :=
    Prod.map id watched.withBackend (DuvmBackend.storePage watched.backend handle data)
  loadPage watched handle :=
    Prod.map id watched.withBackend (DuvmBackend.loadPage watched.backend handle)
  capacity watched := DuvmBackend.capacity watched.backend
  isHealthy watched := DuvmBackend.isHealthy watched.backend

end Watched

/-- A TCP backend counts at least the tracked pages. -/
theorem tally_counted :
    Tally fun (link : TcpLink) count => count ≤ link.backend.pagesUsed.toNat where
  allocated := by
    intro link after handle count counted allocated
    have used := TcpLink.pagesUsed_of_allocated allocated
    omega
  denied := by
    intro link after error count counted refused
    rw [TcpLink.pagesUsed_of_denied refused]
    exact counted
  stored := by
    intro link count counted handle data
    exact counted.trans_eq (congrArg UInt64.toNat (TcpLink.pagesUsed_withStream link _ _)).symm
  loaded := by
    intro link count counted handle
    exact counted.trans_eq (congrArg UInt64.toNat (TcpLink.pagesUsed_withStream link _ _)).symm
  freed := by
    intro link count counted handle
    change count ≤ (link.freePage handle).2.backend.pagesUsed.toNat
    cases result : link.freePage handle with
    | mk outcome after =>
        cases outcome with
        | error error =>
            rw [TcpLink.pagesUsed_of_not_freed result]
            exact Nat.le_of_succ_le counted
        | ok done =>
            have used := TcpLink.pagesUsed_of_freed (Nat.zero_lt_of_lt counted) result
            change count ≤ after.backend.pagesUsed.toNat
            omega

/-- A TCP backend counts the tracked pages and those which it could not free. -/
def Balanced (watched : Watched TcpLink) (count : ℕ) : Prop :=
  watched.backend.backend.pagesUsed.toNat = count + watched.failedFrees

theorem tally_balanced : Tally Balanced where
  allocated := by
    intro watched after handle count balanced allocated
    rcases exists_of_map_eq allocated with ⟨issued, isIssued, rfl⟩
    have used := TcpLink.pagesUsed_of_allocated isIssued
    unfold Balanced at balanced ⊢
    simp only [Watched.withBackend]
    omega
  denied := by
    intro watched after error count balanced refused
    rcases exists_of_map_eq refused with ⟨same, isSame, rfl⟩
    exact (congrArg UInt64.toNat (TcpLink.pagesUsed_of_denied isSame)).trans balanced
  stored := by
    intro watched count balanced handle data
    exact (congrArg UInt64.toNat (TcpLink.pagesUsed_withStream _ _ _)).trans balanced
  loaded := by
    intro watched count balanced handle
    exact (congrArg UInt64.toNat (TcpLink.pagesUsed_withStream _ _ _)).trans balanced
  freed := by
    rintro ⟨link, failedFrees⟩ count balanced handle
    have counted : link.backend.pagesUsed.toNat = count + 1 + failedFrees := balanced
    have used : 0 < link.backend.pagesUsed.toNat := by omega
    change Balanced (Watched.freePage ⟨link, failedFrees⟩ handle).2 count
    unfold Watched.freePage Balanced
    split
    · next after result =>
        have freed := TcpLink.pagesUsed_of_freed used result
        simp only [Watched.withBackend]
        omega
    · next error after result =>
        change after.backend.pagesUsed.toNat = count + (failedFrees + 1)
        rw [TcpLink.pagesUsed_of_not_freed result]
        exact counted.trans (by omega)

/-- In a state of a session, a TCP backend counts as many pages as the policy tracks in it if
and only if it could free every page so far. -/
theorem pagesUsed_eq_pagesInBackend_iff {Other : Type v} [DuvmBackend Other]
    {backends : HashMap UInt8 (Watched TcpLink ⊕ Other)} {actions : List (CallEnv × Call)}
    {session : Session (Watched TcpLink ⊕ Other)}
    (fresh : ∀ id watched, backends.lookup id = some (.inl watched) →
      watched.backend.backend.pagesUsed = 0 ∧ watched.failedFrees = 0)
    (reached : Transition.run Session.step (.start backends) actions = some session)
    {id : UInt8} {watched : Watched TcpLink}
    (found : session.engine.backends.lookup id = some (.inl watched)) :
    watched.backend.backend.pagesUsed.toNat = session.engine.policy.pagesInBackend id ↔
      watched.failedFrees = 0 := by
  have tallied := Session.tallied_of_run (tally_balanced.among Other) (by
    rintro other (tcp | _) isFound
    · rcases fresh other tcp isFound with ⟨unused, none⟩
      change tcp.backend.backend.pagesUsed.toNat = 0 + tcp.failedFrees
      rw [unused, none]
      rfl
    · trivial) reached
  have balanced : watched.backend.backend.pagesUsed.toNat =
    session.engine.policy.pagesInBackend id + watched.failedFrees := tallied id _ found
  omega

/-- A TCP backend for two pages, beside which there may be memory backends. -/
def onePeer (fates : List Fate) : HashMap UInt8 (Watched TcpLink ⊕ MemoryBackend) :=
  AList.singleton 0 (.inl ⟨⟨.connected 0 "server" 2 0, .start 2, fates⟩, 0⟩)

theorem fresh_onePeer (fates : List Fate) (id : UInt8) (watched : Watched TcpLink)
    (found : (onePeer fates).lookup id = some (.inl watched)) :
    watched.backend.backend.pagesUsed = 0 ∧ watched.failedFrees = 0 := by
  rw [onePeer, ← HashMap.mem_entries_iff, AList.singleton_entries, List.mem_singleton] at found
  cases found
  exact ⟨rfl, rfl⟩

/-- A page is stored and invalidated. -/
def storeAndInvalidate : List (CallEnv × Call) :=
  [.store 1 (.filled 1), .invalidate 1].map quietly

theorem pagesUsed_after_invalidate :
    ∃ session watched, Transition.run Session.step
        (.start (onePeer [calmly .answered, calmly .answered, calmly .answered]))
        storeAndInvalidate = some session ∧
      session.engine.backends.lookup 0 = some (.inl watched) ∧
      watched.backend.backend.pagesUsed.toNat = session.engine.policy.pagesInBackend 0 := by
  have ran : ∃ session watched, Transition.run Session.step
      (.start (onePeer [calmly .answered, calmly .answered, calmly .answered]))
        storeAndInvalidate = some session ∧
      session.engine.backends.lookup 0 = some (.inl watched) ∧ watched.failedFrees = 0 :=
    ⟨_, _, rfl, rfl, rfl⟩
  rcases ran with ⟨session, watched, reached, found, none⟩
  exact ⟨session, watched, reached, found,
    (pagesUsed_eq_pagesInBackend_iff (fresh_onePeer _) reached found).mpr none⟩

/-- The connection is cut when the page is to be freed: a slot remains counted which no page
has. -/
theorem slot_counted_without_page :
    ∃ session watched, Transition.run Session.step
        (.start (onePeer [calmly .answered, calmly .answered, calmly .requestLost]))
        storeAndInvalidate = some session ∧
      session.engine.backends.lookup 0 = some (.inl watched) ∧
      watched.backend.backend.pagesUsed = 1 ∧ session.engine.policy.pagesInBackend 0 = 0 :=
  ⟨_, _, rfl, rfl, rfl, rfl⟩

end Duvm.Daemon
