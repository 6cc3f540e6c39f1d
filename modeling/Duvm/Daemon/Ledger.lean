import Duvm.Daemon.Accounting

/-!
# Slots and entries

Over lawful backends the entries of the policy and the slots in use are in
bijection: no slot is in use without an entry, and no entry is without its slot. So
the number of pages which a backend holds is the number of entries which name it.
The memory backend and the compression backend issue handles with their own
identifier, which makes a handle name its backend too.
-/

namespace Duvm

universe u

section Lawful

variable {Backend : Type u} [LawfulBackend Backend] {backend after : Backend}

/-- A refusal changes nothing. -/
theorem eq_of_denied (valid : LawfulBackend.Valid backend) {error : DuvmError}
    (denied : DuvmBackend.allocPage backend = (.err error, after)) : after = backend := by
  rcases LawfulBackend.alloc valid with
    ⟨-, failure, refused⟩ | ⟨-, -, panicked, isPanic⟩ | ⟨-, handle, issued, allocated, -⟩
  · cases denied.symm.trans refused
    rfl
  · cases denied.symm.trans isPanic
  · cases denied.symm.trans allocated

/-- A page is stored where a handle has been issued for it, in a slot which was free. -/
theorem stored_of_allocated (valid : LawfulBackend.Valid backend) {handle : PageHandle}
    (allocated : DuvmBackend.allocPage backend = (.ok handle, after)) (data : PageBuffer) :
    (LawfulBackend.slots backend).page handle.offset = none ∧
      ∃ kept, DuvmBackend.storePage after handle data = (.ok (), kept) ∧
        LawfulBackend.Valid kept ∧
        LawfulBackend.slots kept =
          (LawfulBackend.slots backend).issue.put handle.offset data := by
  rcases LawfulBackend.alloc valid with
    ⟨-, error, refused⟩ | ⟨-, -, panicked, isPanic⟩ |
      ⟨room, given, issued, isIssued, issuedValid, isSlot, slots⟩
  · cases allocated.symm.trans refused
  · cases allocated.symm.trans isPanic
  · cases allocated.symm.trans isIssued
    have free : (LawfulBackend.slots backend).page handle.offset = none := by
      by_contra occupied
      have below := (LawfulBackend.occupied valid (Option.ne_none_iff_isSome.mp occupied)).1
      omega
    refine ⟨free, ?_⟩
    rw [← slots]
    apply LawfulBackend.store data issuedValid
    · rw [slots]
      exact room
    · rw [slots, isSlot]
      exact Nat.lt_succ_self _
    · rw [slots]
      exact free

end Lawful

namespace Daemon

namespace Engine

variable {Backend : Type u} {engine next : Engine Backend}

theorem setBackend_self {id : UInt8} {backend : Backend}
    (found : engine.backends.lookup id = some backend) : engine.setBackend id backend = engine := by
  rw [setBackend, HashMap.replace_self found]

variable [LawfulBackend Backend]

theorem Inv.move {request : Option (UInt64 × PageBuffer)} (inv : engine.Inv)
    (move : Move request engine next) : next.Inv := by
  cases move with
  | counted stats =>
      refine SamePlaces.inv ?_ inv
      exact samePlaces_of_eq rfl rfl
  | dropped offset entry listed => exact (inv.drop listed).inv
  | retouched offset entry updated listed sameHandle sameBackend =>
      refine SamePlaces.inv ?_ inv
      refine samePlaces_of_retouched rfl ?_
      exact .replaced offset entry updated listed sameHandle sameBackend
  | asked offset entry backend listed found =>
      rw [LawfulBackend.loadPage_snd (inv.valid found), setBackend_self found]
      exact inv
  | denied id backend after error found refused =>
      rw [eq_of_denied (inv.valid found) refused, setBackend_self found]
      exact inv
  | returned id backend issued failed handle data error found allocated refused =>
      rcases stored_of_allocated (inv.valid found) allocated data with ⟨-, kept, stored, -⟩
      cases refused.symm.trans stored
  | placed env tier id backend issued after handle offset data _ untracked found allocated
      stored =>
      rcases stored_of_allocated (inv.valid found) allocated data with
        ⟨free, kept, isKept, valid, slots⟩
      cases stored.symm.trans isKept
      have placed := (inv.place untracked found valid free slots :
        (engine.placed env offset handle id tier after).Inv ∧ _).1
      refine SamePlaces.inv ?_ placed
      exact samePlaces_of_eq rfl rfl

/-- Every slot in use has an entry. -/
def Owned (engine : Engine Backend) : Prop :=
  ∀ id backend slot, engine.backends.lookup id = some backend →
    ((LawfulBackend.slots backend).page slot).isSome →
    ∃ offset entry, engine.policy.lookup offset = some entry ∧ entry.backendId = id ∧
      entry.handle.offset = slot

/-- A backend changes in one slot, and the entries of the other slots stay. -/
theorem Owned.change (owned : engine.Owned) {id : UInt8} {backend after : Backend}
    (found : engine.backends.lookup id = some backend)
    (backends : next.backends = engine.backends.replace id after) (slot : UInt64)
    (pages : ∀ other, other ≠ slot →
      (LawfulBackend.slots after).page other = (LawfulBackend.slots backend).page other)
    (stay : ∀ offset entry, engine.policy.lookup offset = some entry →
      ¬(entry.backendId = id ∧ entry.handle.offset = slot) →
      next.policy.lookup offset = some entry)
    (here : ((LawfulBackend.slots after).page slot).isSome →
      ∃ offset entry, next.policy.lookup offset = some entry ∧ entry.backendId = id ∧
        entry.handle.offset = slot) : next.Owned := by
  intro other current used isCurrent occupied
  rw [backends] at isCurrent
  rcases HashMap.new_or_old found isCurrent with ⟨rfl, rfl⟩ | ⟨distinct, wasFound⟩
  · by_cases isSlot : used = slot
    · subst isSlot
      exact here occupied
    · rw [pages used isSlot] at occupied
      rcases owned other backend used found occupied with ⟨offset, entry, listed, on, at_⟩
      refine ⟨offset, entry, stay offset entry listed ?_, on, at_⟩
      rintro ⟨-, isHere⟩
      exact isSlot (at_.symm.trans isHere)
  · rcases owned other current used wasFound occupied with ⟨offset, entry, listed, on, at_⟩
    refine ⟨offset, entry, stay offset entry listed ?_, on, at_⟩
    rintro ⟨isHere, -⟩
    exact distinct (on.symm.trans isHere)

/-- As many slots are in use as there are entries for the backend. -/
def Counts (engine : Engine Backend) : Prop :=
  engine.Tallied fun backend count => (LawfulBackend.slots backend).used = count

/-- The entries and the slots in use are in bijection. -/
structure Ledger (engine : Engine Backend) : Prop where
  inv : engine.Inv
  owned : engine.Owned
  counts : engine.Counts

theorem Ledger.dropped (ledger : engine.Ledger) {offset : UInt64} {entry : PageMeta}
    (listed : engine.policy.lookup offset = some entry) :
    Ledger ((engine.untrack offset).freeOn entry.backendId entry.handle).2 := by
  rcases ledger.inv.holder listed with ⟨backend, found, occupied⟩
  have valid := ledger.inv.valid found
  have used := (LawfulBackend.occupied valid occupied).2
  have removed := PolicyEngine.pagesInBackend_remove listed
  rcases freeOn_of_valid (show (engine.untrack offset).backends.lookup entry.backendId =
    some backend from found) valid entry.handle with ⟨after, freed, -, cleared⟩
  have inv := (ledger.inv.drop listed).inv
  rw [Engine.dropped] at inv
  rw [freed] at inv ⊢
  refine ⟨inv, ?_, ?_⟩
  · refine ledger.owned.change found rfl entry.handle.offset ?_ ?_ ?_
    · intro other distinct
      rw [cleared]
      exact Function.update_of_ne distinct _ _
    · intro other found isFound elsewhere
      change (engine.untrack offset).policy.lookup other = some found
      rw [lookup_untrack, if_neg, isFound]
      rintro rfl
      rcases Option.some.inj (isFound.symm.trans listed) with rfl
      exact elsewhere ⟨rfl, rfl⟩
    · intro isSome
      simp [cleared, Slots.clear] at isSome
  · refine ledger.counts.change found rfl ?_ ?_
    · intro other distinct
      have counted := removed other
      rw [if_neg (Ne.symm distinct)] at counted
      exact counted
    · have before : (LawfulBackend.slots backend).used = _ := ledger.counts _ backend found
      have counted := removed entry.backendId
      rw [if_pos rfl] at counted
      rw [cleared, Slots.clear]
      simp only [occupied, if_true]
      change (LawfulBackend.slots backend).used - 1 =
        (engine.policy.remove offset).2.pagesInBackend entry.backendId
      omega

theorem Ledger.retouched (ledger : engine.Ledger) {offset : UInt64} {entry updated : PageMeta}
    (listed : engine.policy.lookup offset = some entry)
    (sameHandle : updated.handle = entry.handle)
    (sameBackend : updated.backendId = entry.backendId)
    (inv : Inv { engine with policy := ⟨engine.policy.pages.replace offset updated⟩ }) :
    Ledger { engine with policy := ⟨engine.policy.pages.replace offset updated⟩ } := by
  refine ⟨inv, ?_, ?_⟩
  · intro id backend slot found occupied
    rcases ledger.owned id backend slot found occupied with ⟨owner, owning, isOwner, on, at_⟩
    by_cases same : owner = offset
    · subst same
      rcases Option.some.inj (isOwner.symm.trans listed) with rfl
      refine ⟨owner, updated, ?_, sameBackend.trans on, ?_⟩
      · exact (lookup_retouched listed updated owner).trans (if_pos rfl)
      · rw [sameHandle]
        exact at_
    · refine ⟨owner, owning, ?_, on, at_⟩
      exact ((lookup_retouched listed updated owner).trans (if_neg same)).trans isOwner
  · intro id backend found
    change _ = PolicyEngine.pagesInBackend ⟨_⟩ id
    rw [PolicyEngine.pagesInBackend_replace listed sameBackend]
    exact ledger.counts id backend found

theorem Ledger.move {request : Option (UInt64 × PageBuffer)} (ledger : engine.Ledger)
    (move : Move request engine next) : next.Ledger := by
  have inv := ledger.inv.move move
  have valid {id : UInt8} {backend : Backend} (found : engine.backends.lookup id = some backend) :=
    ledger.inv.valid found
  cases move with
  | counted stats => exact ⟨inv, ledger.owned, ledger.counts⟩
  | dropped offset entry listed => exact ledger.dropped listed
  | retouched offset entry updated listed sameHandle sameBackend =>
      exact ledger.retouched listed sameHandle sameBackend inv
  | asked offset entry backend listed found =>
      rw [LawfulBackend.loadPage_snd (valid found), setBackend_self found]
      exact ledger
  | denied id backend after error found refused =>
      rw [eq_of_denied (valid found) refused, setBackend_self found]
      exact ledger
  | returned id backend issued failed handle data error found allocated refused =>
      rcases stored_of_allocated (valid found) allocated data with ⟨-, kept, stored, -⟩
      cases refused.symm.trans stored
  | placed env tier id backend issued after handle offset data _ untracked found allocated
      stored =>
      rcases stored_of_allocated (valid found) allocated data with
        ⟨free, kept, isKept, -, slots⟩
      cases stored.symm.trans isKept
      refine ⟨inv, ?_, ?_⟩
      · refine ledger.owned.change found rfl handle.offset ?_ ?_ ?_
        · intro other distinct
          rw [slots]
          exact Function.update_of_ne distinct _ _
        · intro other entry listed _
          rw [lookup_recordStore, if_neg, listed]
          rintro rfl
          cases untracked.symm.trans listed
        · intro _
          exact ⟨offset, _, (lookup_recordStore _ _ _ _ _ _ _).trans (if_pos rfl), rfl, rfl⟩
      · have counted := PolicyEngine.pagesInBackend_recordStore untracked env handle id tier
        have before : (LawfulBackend.slots backend).used = _ := ledger.counts id backend found
        refine ledger.counts.change found rfl ?_ ?_
        · intro other distinct
          exact (counted other).trans (by rw [if_neg (Ne.symm distinct), Nat.add_zero])
        · rw [counted, if_pos rfl, slots, ← before]
          rfl

/-- A backend is registered under its identifier, and the handle of an entry names the backend. -/
structure Named {codec : Lz4} (engine : Engine (LocalBackend codec)) : Prop where
  keyed : ∀ id backend, engine.backends.lookup id = some backend → backend.backendId = id
  handles : ∀ offset entry, engine.policy.lookup offset = some entry →
    entry.handle.backendId = entry.backendId

namespace Named

variable {codec : Lz4} {engine next : Engine (LocalBackend codec)}

theorem change (named : engine.Named) {id : UInt8} {backend after : LocalBackend codec}
    (found : engine.backends.lookup id = some backend)
    (backends : next.backends = engine.backends.replace id after)
    (same : after.backendId = backend.backendId)
    (handles : ∀ offset entry, next.policy.lookup offset = some entry →
      entry.handle.backendId = entry.backendId) : next.Named where
  keyed other current isCurrent := by
    rw [backends] at isCurrent
    rcases HashMap.new_or_old found isCurrent with ⟨rfl, rfl⟩ | ⟨_, wasFound⟩
    · exact same.trans (named.keyed other backend found)
    · exact named.keyed other current wasFound
  handles := handles

theorem move {request : Option (UInt64 × PageBuffer)} (named : engine.Named)
    (move : Move request engine next) : next.Named := by
  have handles := named.handles
  cases move with
  | counted stats => exact ⟨named.keyed, handles⟩
  | dropped offset entry listed =>
      have fewer : ∀ other found, (engine.untrack offset).policy.lookup other = some found →
          found.handle.backendId = found.backendId := by
        intro other found isFound
        exact handles other found (listed_of_untrack isFound).2
      unfold freeOn
      split
      · exact ⟨named.keyed, fewer⟩
      · next backend found =>
          exact named.change found rfl (backend.backendId_freePage entry.handle) fewer
  | retouched offset entry updated listed sameHandle sameBackend =>
      refine ⟨named.keyed, ?_⟩
      intro other found isFound
      rcases listed_of_retouched listed sameHandle sameBackend isFound with
        ⟨old, wasListed, ofSame, onSame⟩
      rw [← ofSame, ← onSame]
      exact handles other old wasListed
  | asked offset entry backend listed found =>
      exact named.change found rfl (backend.backendId_loadPage entry.handle) handles
  | denied id backend after error found refused =>
      refine named.change found rfl ?_ handles
      rw [← backend.backendId_allocPage, refused]
  | returned id backend issued failed handle data error found allocated refused =>
      refine named.change found rfl ?_ handles
      have stored := issued.backendId_storePage handle data
      rw [refused] at stored
      rw [LocalBackend.backendId_freePage, stored]
      exact (LocalBackend.backendId_of_allocated allocated).2
  | placed env tier id backend issued after handle offset data _ untracked found allocated
      stored =>
      rcases LocalBackend.backendId_of_allocated allocated with ⟨names, same⟩
      refine named.change found rfl ?_ ?_
      · have kept := issued.backendId_storePage handle data
        rw [stored] at kept
        exact kept.trans same
      · intro other entry isFound
        rw [lookup_recordStore] at isFound
        split at isFound
        · rw [← Option.some.inj isFound, names]
          exact named.keyed id backend found
        · exact handles other entry isFound

end Named

/-- What the policy records and what the backends hold are the same. -/
structure Bookkept {codec : Lz4} (engine : Engine (LocalBackend codec)) : Prop where
  injective : ∀ left right first second, engine.policy.lookup left = some first →
    engine.policy.lookup right = some second →
    (first.backendId, first.handle) = (second.backendId, second.handle) → left = right
  present : ∀ offset entry, engine.policy.lookup offset = some entry →
    ∃ backend, engine.backends.lookup entry.backendId = some backend ∧
      backend.Holds entry.handle.offset
  tracked : ∀ id backend slot, engine.backends.lookup id = some backend → backend.Holds slot →
    ∃! offset, ∃ entry, engine.policy.lookup offset = some entry ∧ entry.backendId = id ∧
      entry.handle.offset = slot
  handles : ∀ offset entry, engine.policy.lookup offset = some entry →
    entry.handle.backendId = entry.backendId
  used : ∀ id backend, engine.backends.lookup id = some backend →
    (DuvmBackend.capacity backend).2.toNat = engine.policy.pagesInBackend id
  bounded : ∀ id backend, engine.backends.lookup id = some backend →
    (DuvmBackend.capacity backend).2 ≤ backend.maxPages

theorem Ledger.bookkept {codec : Lz4} {engine : Engine (LocalBackend codec)}
    (ledger : engine.Ledger) (named : engine.Named) : engine.Bookkept where
  injective left right first second isLeft isRight same := by
    rcases Prod.mk.inj same with ⟨sameBackend, sameHandle⟩
    exact ledger.inv.distinct isLeft isRight sameBackend (congrArg PageHandle.offset sameHandle)
  present offset entry listed := by
    rcases ledger.inv.holder listed with ⟨backend, found, occupied⟩
    exact ⟨backend, found, (LocalBackend.holds_iff (ledger.inv.valid found) _).mpr occupied⟩
  tracked id backend slot found holds := by
    have occupied := (LocalBackend.holds_iff (ledger.inv.valid found) slot).mp holds
    rcases ledger.owned id backend slot found occupied with ⟨offset, entry, listed, on, isSlot⟩
    refine ⟨offset, ⟨entry, listed, on, isSlot⟩, ?_⟩
    rintro other ⟨found, isFound, alsoOn, alsoSlot⟩
    exact ledger.inv.distinct isFound listed (alsoOn.trans on.symm) (alsoSlot.trans isSlot.symm)
  handles := named.handles
  used id backend found := by
    rw [LocalBackend.toNat_capacity (ledger.inv.valid found)]
    exact ledger.counts id backend found
  bounded id backend found := by
    have valid := ledger.inv.valid found
    apply UInt64.le_iff_toNat_le.mpr
    rw [LocalBackend.toNat_capacity valid, ← LocalBackend.total_slots]
    exact LawfulBackend.within valid

end Engine

/-- Backends as they are registered: new ones, each under its identifier. -/
def Registered {codec : Lz4} (backends : HashMap UInt8 (LocalBackend codec)) : Prop :=
  ∀ id backend, backends.lookup id = some backend → backend.Fresh ∧ backend.backendId = id

namespace Session

variable {codec : Lz4} {backends : HashMap UInt8 (LocalBackend codec)}

theorem ledger_start (registered : Registered backends) : (start backends).engine.Ledger := by
  have empty : ∀ id backend, backends.lookup id = some backend → Empty backend :=
    fun id backend found => empty_of_fresh (registered id backend found).1
  refine ⟨(agrees_start empty).inv, ?_, ?_⟩
  · intro id backend slot found occupied
    have used := (LawfulBackend.occupied (empty id backend found).valid occupied).2
    rw [(empty id backend found).used] at used
    exact absurd used (Nat.lt_irrefl 0)
  · intro id backend found
    exact (empty id backend found).used

theorem named_start (registered : Registered backends) : (start backends).engine.Named where
  keyed id backend found := (registered id backend found).2
  handles offset entry listed := by cases listed

end Session

/-- In every state which a session over local backends can reach, the policy and the backends
agree: no page is lost track of, and no handle is without its page. -/
theorem bookkept_of_run {codec : Lz4} {backends : HashMap UInt8 (LocalBackend codec)}
    (registered : Registered backends) {actions : List (CallEnv × Call)}
    {session : Session (LocalBackend codec)}
    (reached : Transition.run Session.step (.start backends) actions = some session) :
    session.engine.Bookkept := by
  have ledger := Session.invariant_of_run Engine.Ledger (fun _ _ _ ledger => ledger.move)
    (Session.ledger_start registered) reached
  have named := Session.invariant_of_run Engine.Named (fun _ _ _ named => named.move)
    (Session.named_start registered) reached
  exact ledger.bookkept named

theorem registered_twoBackends : Registered twoBackends := by
  intro id backend found
  refine ⟨fresh_twoBackends id backend found, ?_⟩
  simp only [twoBackends, HashMap.lookup_insert_eq_ite, AList.lookup_empty] at found
  split at found
  · next same =>
      rw [← Option.some.inj found, same]
      rfl
  · split at found
    · next same =>
        rw [← Option.some.inj found, same]
        rfl
    · cases found

def storeThree : List (CallEnv × Call) :=
  [.store 1 countingPage, .store 2 countingPage, .store 3 countingPage].map quietly

/-- Three pages in two backends with room for one each: the third store gives up a page. -/
theorem bookkept_after_eviction :
    ∃ session, Transition.run Session.step (.start twoBackends) storeThree = some session ∧
      session.engine.Bookkept := by
  have ran : ∃ session,
      Transition.run Session.step (.start twoBackends) storeThree = some session := ⟨_, rfl⟩
  rcases ran with ⟨session, reached⟩
  exact ⟨session, reached, bookkept_of_run registered_twoBackends reached⟩

end Daemon

end Duvm
