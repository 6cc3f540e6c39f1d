import Duvm.Backend.Contract
import Duvm.Daemon.Engine

/-!
# The engine as a map from offsets to pages

Over lawful backends the engine has a meaning: `contents` follows the policy
entry of an offset to the slot of its handle. The invariant says that every
tracked page is where its entry says, that no two offsets share a slot, and
that the backends hold as many pages as the policy tracks.

The operations of the engine are made of two steps which change a backend and
the entry of one offset, `drop` and `place`. Both are instances of `Rewrite`,
which says what such a step may do and gives the contents after it.
-/

namespace Duvm.Daemon

open Function (update)

universe u

namespace Engine

variable {Backend : Type u} [LawfulBackend Backend]

/-- The page in the slot to which a policy entry points. -/
def pageAt (engine : Engine Backend) (entry : PageMeta) : Option PageBuffer :=
  (engine.backends.lookup entry.backendId).bind fun backend =>
    (LawfulBackend.slots backend).page entry.handle.offset

/-- The page which the engine keeps for an offset. -/
def contents (engine : Engine Backend) (offset : UInt64) : Option PageBuffer :=
  (engine.policy.lookup offset).bind engine.pageAt

/-- The number of pages which the backends hold. -/
def usedPages (engine : Engine Backend) : ℕ :=
  HashMap.total (fun backend => (LawfulBackend.slots backend).used) engine.backends

/-- The number of pages which the backends may hold. -/
def totalPages (engine : Engine Backend) : ℕ :=
  HashMap.total (fun backend => (LawfulBackend.slots backend).total) engine.backends

/-- The number of handles which the backends have given out. -/
def issuedPages (engine : Engine Backend) : ℕ :=
  HashMap.total (fun backend => (LawfulBackend.slots backend).issued) engine.backends

structure Inv (engine : Engine Backend) : Prop where
  valid : ∀ {id : UInt8} {backend : Backend}, engine.backends.lookup id = some backend →
    LawfulBackend.Valid backend
  tracked : ∀ {offset : UInt64} {entry : PageMeta}, engine.policy.lookup offset = some entry →
    (engine.pageAt entry).isSome
  distinct : ∀ {left right : UInt64} {first second : PageMeta},
    engine.policy.lookup left = some first → engine.policy.lookup right = some second →
    first.backendId = second.backendId → first.handle.offset = second.handle.offset →
    left = right
  counted : engine.usedPages = HashMap.size engine.policy.pages

variable {engine : Engine Backend} {entry : PageMeta}

variable {backend : Backend} {offset : UInt64} {id : UInt8}

theorem pageAt_of_found (found : engine.backends.lookup entry.backendId = some backend) :
    engine.pageAt entry = (LawfulBackend.slots backend).page entry.handle.offset := by
  simp only [pageAt, found, Option.bind_some]

/-- The backend of a tracked page. -/
theorem Inv.holder (inv : engine.Inv) (isTracked : engine.policy.lookup offset = some entry) :
    ∃ backend, engine.backends.lookup entry.backendId = some backend ∧
      ((LawfulBackend.slots backend).page entry.handle.offset).isSome := by
  have occupied := inv.tracked isTracked
  cases found : engine.backends.lookup entry.backendId with
  | none => simp [pageAt, found] at occupied
  | some backend =>
      rw [pageAt_of_found found] at occupied
      exact ⟨backend, rfl, occupied⟩

theorem Inv.contents_isSome_iff (inv : engine.Inv) (offset : UInt64) :
    (engine.contents offset).isSome ↔ offset ∈ engine.policy.pages := by
  cases listed : engine.policy.lookup offset with
  | none =>
      have absent : offset ∉ engine.policy.pages := AList.lookup_eq_none.mp listed
      simp [contents, listed, absent]
  | some entry =>
      have present : offset ∈ engine.policy.pages := HashMap.mem_of_lookup_eq_some listed
      simp [contents, listed, inv.tracked listed, present]

omit [LawfulBackend Backend] in
theorem lookup_setBackend {old : Backend} (found : engine.backends.lookup id = some old)
    (other : UInt8) (backend : Backend) :
    (engine.setBackend id backend).backends.lookup other =
      if other = id then some backend else engine.backends.lookup other :=
  HashMap.lookup_replace_eq_ite (HashMap.mem_of_lookup_eq_some found) _ _

/-- A step which changes one backend, in one slot, and the entry of one offset. -/
structure Rewrite (engine next : Engine Backend) (offset : UInt64) (id : UInt8) (slot : UInt64)
    (backend after : Backend) : Prop where
  found : engine.backends.lookup id = some backend
  backends : next.backends = engine.backends.replace id after
  valid : LawfulBackend.Valid after
  policy : ∀ other, other ≠ offset → next.policy.lookup other = engine.policy.lookup other
  entry : ∀ entry, next.policy.lookup offset = some entry →
    entry.backendId = id ∧ entry.handle.offset = slot ∧
      ((LawfulBackend.slots after).page slot).isSome
  page : ∀ other, other ≠ slot →
    (LawfulBackend.slots after).page other = (LawfulBackend.slots backend).page other
  elsewhere : ∀ other entry, other ≠ offset → engine.policy.lookup other = some entry →
    entry.backendId = id → entry.handle.offset ≠ slot
  counted : HashMap.size next.policy.pages + (LawfulBackend.slots backend).used =
    HashMap.size engine.policy.pages + (LawfulBackend.slots after).used

namespace Rewrite

variable {engine next : Engine Backend} {offset slot : UInt64} {id : UInt8}
  {backend after : Backend}

theorem lookup_backends (rewrite : Rewrite engine next offset id slot backend after)
    (other : UInt8) :
    next.backends.lookup other =
      if other = id then some after else engine.backends.lookup other := by
  rw [rewrite.backends]
  exact lookup_setBackend rewrite.found other after

theorem total_eq (rewrite : Rewrite engine next offset id slot backend after)
    (measure : Backend → ℕ) :
    HashMap.total measure next.backends + measure backend =
      HashMap.total measure engine.backends + measure after := by
  rw [rewrite.backends]
  exact HashMap.total_replace measure after rewrite.found

theorem pageAt_other (rewrite : Rewrite engine next offset id slot backend after) {other : UInt64}
    (different : other ≠ offset) (listed : engine.policy.lookup other = some entry) :
    next.pageAt entry = engine.pageAt entry := by
  simp only [pageAt]
  rw [rewrite.lookup_backends]
  by_cases sameBackend : entry.backendId = id
  · rw [if_pos sameBackend, sameBackend, rewrite.found, Option.bind_some, Option.bind_some]
    apply rewrite.page
    exact rewrite.elsewhere other entry different listed sameBackend
  · rw [if_neg sameBackend]

theorem pageAt_self (rewrite : Rewrite engine next offset id slot backend after)
    (listed : next.policy.lookup offset = some entry) :
    next.pageAt entry = (LawfulBackend.slots after).page slot := by
  rcases rewrite.entry entry listed with ⟨sameBackend, sameSlot, _⟩
  rw [← sameSlot]
  apply pageAt_of_found
  rw [rewrite.lookup_backends, if_pos sameBackend]

theorem inv (rewrite : Rewrite engine next offset id slot backend after) (inv : engine.Inv) :
    next.Inv where
  valid := by
    intro other current isCurrent
    rw [rewrite.lookup_backends] at isCurrent
    split at isCurrent
    · rw [← Option.some.inj isCurrent]
      exact rewrite.valid
    · exact inv.valid isCurrent
  tracked := by
    intro other entry listed
    by_cases same : other = offset
    · subst same
      rw [rewrite.pageAt_self listed]
      exact (rewrite.entry entry listed).2.2
    · rw [rewrite.policy other same] at listed
      rw [rewrite.pageAt_other same listed]
      exact inv.tracked listed
  distinct := by
    intro left right first second leftListed rightListed sameBackend sameSlot
    by_cases leftNew : left = offset
    · subst leftNew
      rcases rewrite.entry first leftListed with ⟨firstBackend, firstSlot, _⟩
      by_contra different
      have rightOld := rightListed
      rw [rewrite.policy right (Ne.symm different)] at rightOld
      exact rewrite.elsewhere right second (Ne.symm different) rightOld
        (sameBackend.symm.trans firstBackend) (sameSlot.symm.trans firstSlot)
    · rw [rewrite.policy left leftNew] at leftListed
      by_cases rightNew : right = offset
      · subst rightNew
        rcases rewrite.entry second rightListed with ⟨secondBackend, secondSlot, _⟩
        exact absurd (sameSlot.trans secondSlot)
          (rewrite.elsewhere left first leftNew leftListed (sameBackend.trans secondBackend))
      · rw [rewrite.policy right rightNew] at rightListed
        exact inv.distinct leftListed rightListed sameBackend sameSlot
  counted := by
    have used := rewrite.total_eq fun backend => (LawfulBackend.slots backend).used
    have before := inv.counted
    have counted := rewrite.counted
    simp only [usedPages] at before ⊢
    omega

theorem contents_eq (rewrite : Rewrite engine next offset id slot backend after) :
    next.contents = update engine.contents offset
      ((next.policy.lookup offset).bind fun _ => (LawfulBackend.slots after).page slot) := by
  funext other
  by_cases same : other = offset
  · subst same
    rw [Function.update_self, contents]
    cases listed : next.policy.lookup other with
    | none => rfl
    | some entry =>
        simp only [Option.bind_some]
        exact rewrite.pageAt_self listed
  · rw [Function.update_of_ne same, contents, contents, rewrite.policy other same]
    cases listed : engine.policy.lookup other with
    | none => rfl
    | some entry =>
        simp only [Option.bind_some]
        exact rewrite.pageAt_other same listed

end Rewrite

/-- The backends and their limits stay, and `spent` handles are issued. -/
structure Follows (engine next : Engine Backend) (spent : ℕ) : Prop where
  count : HashMap.size next.backends = HashMap.size engine.backends
  total : next.totalPages = engine.totalPages
  issued : next.issuedPages = engine.issuedPages + spent

theorem Follows.refl (engine : Engine Backend) : engine.Follows engine 0 := ⟨rfl, rfl, rfl⟩

theorem Follows.trans {first second third : Engine Backend} {left right : ℕ}
    (earlier : first.Follows second left) (later : second.Follows third right) :
    first.Follows third (left + right) where
  count := later.count.trans earlier.count
  total := later.total.trans earlier.total
  issued := by
    have start := earlier.issued
    have finish := later.issued
    omega

theorem Rewrite.follows {next : Engine Backend} {slot : UInt64} {after : Backend} {spent : ℕ}
    (rewrite : Rewrite engine next offset id slot backend after)
    (total : (LawfulBackend.slots after).total = (LawfulBackend.slots backend).total)
    (issued : (LawfulBackend.slots after).issued = (LawfulBackend.slots backend).issued + spent) :
    engine.Follows next spent where
  count := by
    rw [rewrite.backends]
    exact HashMap.size_replace _ _ _
  total := by
    have sums := rewrite.total_eq fun backend => (LawfulBackend.slots backend).total
    simp only [totalPages]
    omega
  issued := by
    have sums := rewrite.total_eq fun backend => (LawfulBackend.slots backend).issued
    simp only [issuedPages]
    omega

omit [LawfulBackend Backend] in
theorem lookup_untrack (engine : Engine Backend) (offset other : UInt64) :
    (engine.untrack offset).policy.lookup other =
      if other = offset then none else engine.policy.lookup other :=
  HashMap.lookup_erase_eq_ite _ _ _

omit [LawfulBackend Backend] in
theorem listed_of_untrack {other : UInt64}
    (listed : (engine.untrack offset).policy.lookup other = some entry) :
    other ≠ offset ∧ engine.policy.lookup other = some entry := by
  rw [lookup_untrack] at listed
  split at listed
  · cases listed
  · next distinct => exact ⟨distinct, listed⟩

theorem freeOn_of_valid (found : engine.backends.lookup id = some backend)
    (valid : LawfulBackend.Valid backend) (handle : PageHandle) :
    ∃ after, engine.freeOn id handle = (some (.ok ()), engine.setBackend id after) ∧
      LawfulBackend.Valid after ∧
      LawfulBackend.slots after = (LawfulBackend.slots backend).clear handle.offset := by
  rcases LawfulBackend.free handle valid with ⟨after, freed, stillValid, cleared⟩
  refine ⟨after, ?_, stillValid, cleared⟩
  rw [freeOn, found]
  simp only
  rw [freed]

/-- The engine after a tracked page has been given up and its slot freed. -/
def dropped (engine : Engine Backend) (offset : UInt64) (entry : PageMeta) : Engine Backend :=
  ((engine.untrack offset).freeOn entry.backendId entry.handle).2

theorem lookup_dropped (offset other : UInt64) :
    (engine.dropped offset entry).policy.lookup other =
      if other = offset then none else engine.policy.lookup other := by
  rw [← lookup_untrack]
  simp only [dropped, freeOn]
  split <;> rfl

/-- What is known after a page has been given up. -/
structure Dropped (engine : Engine Backend) (offset : UInt64) (entry : PageMeta) : Prop where
  freed : (engine.untrack offset).freeOn entry.backendId entry.handle =
    (some (.ok ()), engine.dropped offset entry)
  inv : (engine.dropped offset entry).Inv
  contents : (engine.dropped offset entry).contents = update engine.contents offset none
  follows : engine.Follows (engine.dropped offset entry) 0
  size : HashMap.size (engine.dropped offset entry).policy.pages + 1 =
    HashMap.size engine.policy.pages

theorem Inv.drop (inv : engine.Inv) (isTracked : engine.policy.lookup offset = some entry) :
    engine.Dropped offset entry := by
  rcases inv.holder isTracked with ⟨backend, found, occupied⟩
  have valid := inv.valid found
  have foundUntracked : (engine.untrack offset).backends.lookup entry.backendId = some backend :=
    found
  rcases freeOn_of_valid foundUntracked valid entry.handle with
    ⟨after, freeOn_eq, stillValid, cleared⟩
  have dropped_eq : engine.dropped offset entry =
      (engine.untrack offset).setBackend entry.backendId after := by
    rw [dropped, freeOn_eq]
  have shrunk := HashMap.size_erase_of_mem (HashMap.mem_of_lookup_eq_some isTracked)
  have usedAfter : (LawfulBackend.slots after).used + 1 = (LawfulBackend.slots backend).used := by
    have positive := (LawfulBackend.occupied valid occupied).2
    rw [cleared, Slots.clear]
    simp only [occupied, if_true]
    omega
  have gone : (engine.dropped offset entry).policy.lookup offset = none := by
    rw [lookup_dropped, if_pos rfl]
  have size : HashMap.size (engine.dropped offset entry).policy.pages + 1 =
      HashMap.size engine.policy.pages := by
    rw [dropped_eq]
    exact shrunk
  have rewrite : Rewrite engine (engine.dropped offset entry) offset entry.backendId
      entry.handle.offset backend after := by
    refine ⟨found, by rw [dropped_eq]; rfl, stillValid, ?_, ?_, ?_, ?_, by omega⟩
    · intro other different
      rw [lookup_dropped, if_neg different]
    · intro second listed
      rw [gone] at listed
      simp at listed
    · intro other different
      rw [cleared, Slots.clear]
      exact Function.update_of_ne different _ _
    · intro other second different listed sameBackend sameSlot
      exact different (inv.distinct listed isTracked sameBackend sameSlot)
  refine ⟨by rw [freeOn_eq, dropped_eq], rewrite.inv inv, ?_, ?_, size⟩
  · rw [rewrite.contents_eq, gone]
    rfl
  · apply rewrite.follows
    · rw [cleared]
      rfl
    · rw [cleared]
      rfl

/-- The engine after a page has been placed in a backend and recorded. -/
def placed (engine : Engine Backend) (env : CallEnv) (offset : UInt64) (handle : PageHandle)
    (id : UInt8) (tier : Tier) (backend : Backend) : Engine Backend :=
  { engine.setBackend id backend with
    policy := engine.policy.recordStore env offset handle id tier
    stats := engine.stats.stored }

theorem lookup_recordStore (policy : PolicyEngine) (env : CallEnv) (offset other : UInt64)
    (handle : PageHandle) (id : UInt8) (tier : Tier) :
    (policy.recordStore env offset handle id tier).lookup other =
      if other = offset then some ⟨handle, id, tier, 0, env.now, .empty⟩
      else policy.lookup other :=
  HashMap.lookup_insert_eq_ite _ _ _ _

/-- Placing a page in a free slot changes the contents at its offset only. -/
theorem Inv.place (inv : engine.Inv) {env : CallEnv} {handle : PageHandle} {tier : Tier}
    {data : PageBuffer} {after : Backend} (untracked : engine.policy.lookup offset = none)
    (found : engine.backends.lookup id = some backend) (stillValid : LawfulBackend.Valid after)
    (wasFree : (LawfulBackend.slots backend).page handle.offset = none)
    (put : LawfulBackend.slots after = (LawfulBackend.slots backend).issue.put handle.offset data) :
    (engine.placed env offset handle id tier after).Inv ∧
      (engine.placed env offset handle id tier after).contents =
        update engine.contents offset (some data) ∧
      engine.Follows (engine.placed env offset handle id tier after) 1 := by
  have lookup_placed : ∀ other,
      (engine.placed env offset handle id tier after).policy.lookup other =
        if other = offset then some ⟨handle, id, tier, 0, env.now, .empty⟩
        else engine.policy.lookup other :=
    fun other => lookup_recordStore _ _ _ _ _ _ _
  have listedNow := lookup_placed offset
  rw [if_pos rfl] at listedNow
  have pageNow : (LawfulBackend.slots after).page handle.offset = some data := by
    rw [put]
    exact Function.update_self _ _ _
  have rewrite : Rewrite engine (engine.placed env offset handle id tier after) offset id
      handle.offset backend after := by
    refine ⟨found, rfl, stillValid, ?_, ?_, ?_, ?_, ?_⟩
    · intro other different
      rw [lookup_placed, if_neg different]
    · intro entry listed
      rw [listedNow] at listed
      rw [← Option.some.inj listed]
      exact ⟨rfl, rfl, by rw [pageNow]; rfl⟩
    · intro other different
      rw [put]
      exact Function.update_of_ne different _ _
    · intro other entry _ listed sameBackend sameSlot
      have occupied := inv.tracked listed
      rw [← sameBackend] at found
      rw [pageAt_of_found found, sameSlot, wasFree] at occupied
      simp at occupied
    · have absent : offset ∉ engine.policy.pages := AList.lookup_eq_none.mp untracked
      have grown := HashMap.size_insert_of_notMem
        (⟨handle, id, tier, 0, env.now, .empty⟩ : PageMeta) absent
      have usedAfter : (LawfulBackend.slots after).used =
          (LawfulBackend.slots backend).used + 1 := by
        rw [put]
        rfl
      change HashMap.size (engine.policy.pages.insert offset
        ⟨handle, id, tier, 0, env.now, .empty⟩) + _ = _
      omega
  refine ⟨rewrite.inv inv, ?_, ?_⟩
  · rw [rewrite.contents_eq, listedNow, Option.bind_some, pageNow]
  · apply rewrite.follows
    · rw [put]
      rfl
    · rw [put]
      rfl

end Engine

end Duvm.Daemon
