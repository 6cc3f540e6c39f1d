import Duvm.Daemon.Contents

/-!
# What the operations of the engine do to its contents

Each operation of the engine over lawful backends, as a change of the contents.
A store frees the old page of its offset, makes room by giving up one page when
every backend is full, and places the new page; `Stored` lists the ways in
which it can end.
-/

namespace Duvm.Daemon

open Function (update)

universe u

namespace PolicyEngine

theorem mem_tierPreference (tier : Tier) : tier ∈ tierPreference := by
  cases tier <;> decide

/-- A tier is found unless no backend has room. -/
theorem selectTier_eq_none_iff {capacities : List BackendCapacity} :
    selectTier capacities = none ↔ ∀ capacity ∈ capacities, capacity.hasCapacity = false := by
  simp only [selectTier, List.find?_eq_none, Bool.not_eq_true', Bool.not_eq_false,
    List.isEmpty_iff, List.filter_eq_nil_iff, Bool.and_eq_true, decide_eq_true_eq, not_and,
    Bool.not_eq_true]
  constructor
  · intro noTier capacity listed
    exact noTier capacity.tier (mem_tierPreference _) capacity listed rfl
  · intro noRoom tier _ capacity listed _
    exact noRoom capacity listed

theorem usedBefore_irrefl (first : ℕ × UInt32) : usedBefore first first = false := by
  simp [usedBefore]

theorem usedBefore_asymm (first second : ℕ × UInt32) (before : usedBefore first second = true) :
    usedBefore second first = false := by
  simp only [usedBefore, Bool.or_eq_true, decide_eq_true_eq, Bool.and_eq_true, beq_iff_eq,
    Bool.or_eq_false_iff, decide_eq_false_iff_not, Bool.and_eq_false_iff,
    UInt32.lt_iff_toNat_lt] at before ⊢
  have sameTime : (second.1 == first.1) = false ↔ second.1 ≠ first.1 := by simp
  rw [sameTime]
  omega

theorem usedBefore_trans (first second third : ℕ × UInt32)
    (left : usedBefore second first = false) (right : usedBefore third second = false) :
    usedBefore third first = false := by
  simp only [usedBefore, Bool.or_eq_false_iff, decide_eq_false_iff_not, Bool.and_eq_false_iff,
    beq_eq_false_iff_ne, UInt32.lt_iff_toNat_lt] at left right ⊢
  omega

theorem strictWeak_usedBefore : Selection.StrictWeak usedBefore :=
  ⟨usedBefore_irrefl, usedBefore_trans, usedBefore_asymm⟩

/-- An unpinned page of the backend, which no other of them was used before. -/
structure LeastRecent (policy : PolicyEngine) (id : UInt8) (offset : UInt64)
    (entry : PageMeta) : Prop where
  listed : policy.lookup offset = some entry
  onBackend : entry.backendId = id
  unpinned : entry.flags.contains .PINNED = false
  least : ∀ other second, policy.lookup other = some second → second.backendId = id →
    second.flags.contains .PINNED = false →
    usedBefore (second.lastAccess, second.accessCount) (entry.lastAccess, entry.accessCount) = false

variable {env : CallEnv} {offset : UInt64} {policy : PolicyEngine}

theorem mem_evictable {id : UInt8} {entry : PageMeta} :
    (⟨offset, entry⟩ : TrackedPage) ∈ policy.evictable env id ↔
      policy.lookup offset = some entry ∧ entry.backendId = id ∧
        entry.flags.contains .PINNED = false := by
  simp only [evictable, List.mem_filter, IterOrder.mem_order, HashMap.mem_entries_iff,
    Bool.and_eq_true, decide_eq_true_eq, Bool.not_eq_true', lookup]

theorem leastRecent_of_candidate {id : UInt8}
    (selected : policy.findEvictionCandidate env id = some offset) :
    ∃ entry, policy.LeastRecent id offset entry := by
  simp only [findEvictionCandidate, Option.map_eq_some_iff] at selected
  rcases selected with ⟨⟨key, entry⟩, selected, rfl⟩
  have member := mem_evictable.mp (Selection.mem_of_minBy selected)
  refine ⟨entry, member.1, member.2.1, member.2.2, ?_⟩
  intro other second listed onBackend unpinned
  have candidate : (⟨other, second⟩ : TrackedPage) ∈ policy.evictable env id :=
    mem_evictable.mpr ⟨listed, onBackend, unpinned⟩
  exact Selection.not_less_of_minBy strictWeak_usedBefore selected candidate

theorem pinned_of_no_candidate {id : UInt8}
    (noCandidate : policy.findEvictionCandidate env id = none) {entry : PageMeta}
    (listed : policy.lookup offset = some entry) (onBackend : entry.backendId = id) :
    entry.flags.contains .PINNED = true := by
  by_contra unpinned
  rw [Bool.not_eq_true] at unpinned
  have candidate : (⟨offset, entry⟩ : TrackedPage) ∈ policy.evictable env id :=
    mem_evictable.mpr ⟨listed, onBackend, unpinned⟩
  rcases Selection.exists_minBy usedBefore
    (fun page => (page.2.lastAccess, page.2.accessCount)) candidate with ⟨least, selected⟩
  simp [findEvictionCandidate, selected] at noCandidate

end PolicyEngine

namespace Engine

variable {Backend : Type u} [LawfulBackend Backend]

/-- The same pages in the same places; counters and recency may differ. -/
structure SamePlaces (engine next : Engine Backend) : Prop where
  backends : next.backends = engine.backends
  places : ∀ offset,
    (next.policy.lookup offset).map (fun entry => (entry.backendId, entry.handle)) =
      (engine.policy.lookup offset).map fun entry => (entry.backendId, entry.handle)
  size : HashMap.size next.policy.pages = HashMap.size engine.policy.pages

namespace SamePlaces

variable {engine next : Engine Backend}

theorem pageAt_eq (same : SamePlaces engine next) (entry : PageMeta) :
    next.pageAt entry = engine.pageAt entry := by
  rw [pageAt, pageAt, same.backends]

omit [LawfulBackend Backend] in
theorem listed (same : SamePlaces engine next) {offset : UInt64} {entry : PageMeta}
    (isListed : next.policy.lookup offset = some entry) :
    ∃ old, engine.policy.lookup offset = some old ∧ old.backendId = entry.backendId ∧
      old.handle = entry.handle := by
  have places := same.places offset
  rw [isListed, Option.map_some, eq_comm, Option.map_eq_some_iff] at places
  rcases places with ⟨old, wasListed, equal⟩
  exact ⟨old, wasListed, congrArg Prod.fst equal, congrArg Prod.snd equal⟩

theorem pageAt_old {entry old : PageMeta} (sameBackend : old.backendId = entry.backendId)
    (sameHandle : old.handle = entry.handle) : engine.pageAt old = engine.pageAt entry := by
  rw [pageAt, pageAt, sameBackend, sameHandle]

theorem inv (same : SamePlaces engine next) (inv : engine.Inv) : next.Inv where
  valid := by
    intro id backend found
    rw [same.backends] at found
    exact inv.valid found
  tracked := by
    intro offset entry isListed
    rcases same.listed isListed with ⟨old, wasListed, sameBackend, sameHandle⟩
    rw [same.pageAt_eq, ← pageAt_old sameBackend sameHandle]
    exact inv.tracked wasListed
  distinct := by
    intro left right first second leftListed rightListed equalBackend equalSlot
    rcases same.listed leftListed with ⟨leftOld, leftWas, leftBackend, leftHandle⟩
    rcases same.listed rightListed with ⟨rightOld, rightWas, rightBackend, rightHandle⟩
    apply inv.distinct leftWas rightWas
    · rw [leftBackend, rightBackend, equalBackend]
    · rw [leftHandle, rightHandle, equalSlot]
  counted := by
    rw [same.size, ← inv.counted, usedPages, same.backends]
    rfl

theorem contents_eq (same : SamePlaces engine next) : next.contents = engine.contents := by
  funext offset
  rw [contents, contents]
  cases isListed : next.policy.lookup offset with
  | none =>
      have places := same.places offset
      rw [isListed, Option.map_none, eq_comm, Option.map_eq_none_iff] at places
      rw [places]
      rfl
  | some entry =>
      rcases same.listed isListed with ⟨old, wasListed, sameBackend, sameHandle⟩
      rw [wasListed, Option.bind_some, Option.bind_some, same.pageAt_eq,
        pageAt_old sameBackend sameHandle]

theorem follows (same : SamePlaces engine next) : engine.Follows next 0 where
  count := by rw [same.backends]
  total := by rw [totalPages, same.backends]; rfl
  issued := by rw [issuedPages, same.backends]; rfl

end SamePlaces

omit [LawfulBackend Backend] in
theorem samePlaces_of_eq {engine next : Engine Backend} (backends : next.backends = engine.backends)
    (policy : next.policy = engine.policy) : SamePlaces engine next :=
  ⟨backends, fun offset => by rw [policy], by rw [policy]⟩

omit [LawfulBackend Backend] in
theorem samePlaces_of_retouched {engine next : Engine Backend}
    (backends : next.backends = engine.backends)
    (retouched : engine.policy.Retouched next.policy) : SamePlaces engine next := by
  generalize isPolicy : next.policy = policy at retouched
  cases retouched with
  | untouched => exact samePlaces_of_eq backends isPolicy
  | replaced offset entry updated listed sameHandle sameBackend =>
      refine ⟨backends, ?_, ?_⟩
      · intro other
        have found : engine.policy.pages.lookup offset = some entry := listed
        rw [isPolicy, PolicyEngine.lookup,
          HashMap.lookup_replace_eq_ite (HashMap.mem_of_lookup_eq_some found)]
        split
        · next same =>
            rw [same, listed, Option.map_some, Option.map_some, sameBackend, sameHandle]
        · rfl
      · rw [isPolicy]
        exact HashMap.size_replace _ _ _

/-- Every backend keeps as many pages as it may. -/
def Full (engine : Engine Backend) : Prop :=
  ∀ id backend, engine.backends.lookup id = some backend →
    (LawfulBackend.slots backend).total ≤ (LawfulBackend.slots backend).used

variable {engine : Engine Backend}

theorem Inv.hasRoom_iff (inv : engine.Inv) {id : UInt8} {backend : Backend}
    (found : engine.backends.lookup id = some backend) :
    hasRoom backend = true ↔
      (LawfulBackend.slots backend).used < (LawfulBackend.slots backend).total :=
  LawfulBackend.room (inv.valid found)

theorem Inv.selectTier_eq_none_iff (inv : engine.Inv) :
    PolicyEngine.selectTier engine.backendCapacities = none ↔ engine.Full := by
  rw [PolicyEngine.selectTier_eq_none_iff, backendCapacities, List.forall_mem_map]
  constructor
  · intro noRoom id backend found
    have spent := noRoom ⟨id, backend⟩ (HashMap.mem_entries_iff.mpr found)
    change hasRoom backend = false at spent
    rw [← Nat.not_lt, ← inv.hasRoom_iff found, spent]
    simp
  · intro full entry listed
    have found := HashMap.mem_entries_iff.mp listed
    change hasRoom entry.2 = false
    rw [← Bool.not_eq_true, inv.hasRoom_iff found, Nat.not_lt]
    exact full entry.1 entry.2 found

theorem Inv.usedPages_le (inv : engine.Inv) :
    engine.usedPages ≤ engine.totalPages := by
  apply List.sum_le_sum
  intro entry listed
  exact LawfulBackend.within (inv.valid (HashMap.mem_entries_iff.mp listed))

/-- No backend gives out more handles than there are. -/
theorem Inv.issuedPages_le (inv : engine.Inv) :
    engine.issuedPages ≤ HashMap.size engine.backends * PageHandle.offsetLimit := by
  have bounded := List.sum_le_card_nsmul
    (engine.backends.entries.map fun entry => (LawfulBackend.slots entry.2).issued)
    PageHandle.offsetLimit (by
      intro count listed
      rcases List.mem_map.mp listed with ⟨entry, isEntry, rfl⟩
      exact LawfulBackend.limited (inv.valid (HashMap.mem_entries_iff.mp isEntry)))
  simpa [issuedPages, HashMap.total, HashMap.size, AList.keys, List.keys] using bounded

/-- As long as fewer pages are kept than the backends may hold, one of them has room. -/
theorem not_full_of_lt (room : engine.usedPages < engine.totalPages) :
    ¬engine.Full := by
  intro full
  apply Nat.not_le.mpr room
  apply List.sum_le_sum
  intro entry listed
  exact full entry.1 entry.2 (HashMap.mem_entries_iff.mp listed)

/-- The candidates for a store are backends with room, -/
theorem hasRoom_of_candidate {tier : Tier} {id : UInt8}
    (isCandidate : id ∈ engine.tierBackendCandidates tier) :
    ∃ backend, engine.backends.lookup id = some backend ∧ hasRoom backend = true := by
  simp only [tierBackendCandidates, List.mem_map, List.mem_insertionSort] at isCandidate
  rcases isCandidate with ⟨_, ⟨⟨key, backend⟩, listed, rfl⟩, rfl⟩
  split at listed
  · rw [List.mem_filter] at listed
    exact ⟨backend, HashMap.mem_entries_iff.mp listed.1, listed.2⟩
  · rw [List.mem_filter, Bool.and_eq_true] at listed
    exact ⟨backend, HashMap.mem_entries_iff.mp listed.1, listed.2.2⟩

/-- and there is one if any backend has room. -/
theorem Inv.exists_candidate (inv : engine.Inv) (notFull : ¬engine.Full) (tier : Tier) :
    ∃ id rest, engine.tierBackendCandidates tier = id :: rest := by
  have nonempty : engine.tierBackendCandidates tier ≠ [] := by
    intro empty
    apply notFull
    intro id backend found
    rw [← Nat.not_lt, ← inv.hasRoom_iff found]
    intro room
    have listed := HashMap.mem_entries_iff.mpr found
    simp only [tierBackendCandidates, List.map_eq_nil_iff] at empty
    have unsorted := congrArg List.length empty
    rw [List.length_insertionSort, List.length_map, List.length_nil,
      List.length_eq_zero_iff] at unsorted
    split at unsorted
    · have member : (⟨id, backend⟩ : Σ _ : UInt8, Backend) ∈
          engine.backends.entries.filter fun entry => hasRoom entry.2 :=
        List.mem_filter.mpr ⟨listed, room⟩
      rw [unsorted] at member
      simp at member
    · next someInTier =>
        rw [unsorted] at someInTier
        simp at someInTier
  rcases List.exists_cons_of_ne_nil nonempty with ⟨id, rest, shape⟩
  exact ⟨id, rest, shape⟩

theorem contents_eq_none {offset : UInt64} (untracked : engine.policy.lookup offset = none) :
    engine.contents offset = none := by
  rw [contents, untracked]
  rfl

/-- What is known after the old page of an offset has been freed. -/
structure Released (engine next : Engine Backend) (offset : UInt64) : Prop where
  inv : next.Inv
  contents : next.contents = update engine.contents offset none
  untracked : next.policy.lookup offset = none
  follows : engine.Follows next 0

theorem Inv.releaseOld (inv : engine.Inv) (offset : UInt64) :
    engine.Released (engine.releaseOld offset) offset := by
  rw [Engine.releaseOld]
  cases listed : engine.policy.lookup offset with
  | none =>
      refine ⟨inv, ?_, listed, Follows.refl engine⟩
      rw [← contents_eq_none listed, Function.update_eq_self]
  | some old =>
      have drop := inv.drop listed
      refine ⟨drop.inv, drop.contents, ?_, drop.follows⟩
      exact (lookup_dropped offset offset).trans (if_pos rfl)

theorem Inv.tryEvictFrom (inv : engine.Inv) (env : CallEnv) (ids : List UInt8) :
    (Engine.tryEvictFrom env ids engine = (none, engine) ∧
      ∀ id ∈ ids, engine.policy.findEvictionCandidate env id = none) ∨
    ∃ id victim entry, engine.policy.LeastRecent id victim entry ∧
      Engine.tryEvictFrom env ids engine = (some victim,
        { engine.dropped victim entry with
          stats := (engine.dropped victim entry).stats.invalidated }) := by
  induction ids with
  | nil => exact Or.inl ⟨rfl, by simp⟩
  | cons id rest ih =>
      simp only [Engine.tryEvictFrom]
      cases selected : engine.policy.findEvictionCandidate env id with
      | none =>
          rcases ih with ⟨unchanged, noCandidate⟩ | evicted
          · left
            refine ⟨unchanged, ?_⟩
            intro other isListed
            rcases List.mem_cons.mp isListed with rfl | later
            · exact selected
            · exact noCandidate other later
          · exact Or.inr evicted
      | some victim =>
          right
          rcases PolicyEngine.leastRecent_of_candidate selected with ⟨entry, leastRecent⟩
          refine ⟨id, victim, entry, leastRecent, ?_⟩
          have freed := (inv.drop leastRecent.listed).freed
          rw [leastRecent.onBackend] at freed
          simp only [leastRecent.listed, freed]

/-- The ways in which a store can end, with the page given up, the result and the engine. -/
inductive Stored (engine : Engine Backend) (offset : UInt64) (data : PageBuffer) :
    Option UInt64 → Outcome PageHandle → Engine Backend → Prop
  | placed {handle : PageHandle} {next : Engine Backend}
      (room : ¬(engine.releaseOld offset).Full) (inv : next.Inv)
      (contents : next.contents = update engine.contents offset (some data))
      (follows : engine.Follows next 1) : Stored engine offset data none (.ok handle) next
  | evicting {handle : PageHandle} {next : Engine Backend} {id : UInt8} {victim : UInt64}
      {entry : PageMeta} (full : (engine.releaseOld offset).Full)
      (leastRecent : (engine.releaseOld offset).policy.LeastRecent id victim entry)
      (inv : next.Inv)
      (contents : next.contents =
        update (update engine.contents victim none) offset (some data))
      (follows : engine.Follows next 1) : Stored engine offset data (some victim) (.ok handle) next
  | refused {next : Engine Backend} (full : (engine.releaseOld offset).Full)
      (pinned : ∀ other entry, (engine.releaseOld offset).policy.lookup other = some entry →
        entry.flags.contains .PINNED = true)
      (inv : next.Inv) (contents : next.contents = update engine.contents offset none)
      (follows : engine.Follows next 0) :
      Stored engine offset data none (.err .noEvictablePages) next
  | panicked {victim : Option UInt64} {next : Engine Backend}
      (spent : PageHandle.offsetLimit ≤ engine.issuedPages) :
      Stored engine offset data victim .panic next

/-- The loop over the candidates places the page in the first of them. -/
theorem Inv.storeOn (inv : engine.Inv) (env : CallEnv) {offset : UInt64} (data : PageBuffer)
    (tier : Tier) (untracked : engine.policy.lookup offset = none) (notFull : ¬engine.Full) :
    (∃ handle next, Engine.storeOn env offset data tier (engine.tierBackendCandidates tier) none
        engine = (.ok handle, next) ∧ next.Inv ∧
      next.contents = update engine.contents offset (some data) ∧ engine.Follows next 1) ∨
    (PageHandle.offsetLimit ≤ engine.issuedPages ∧ ∃ next, Engine.storeOn env offset data tier
      (engine.tierBackendCandidates tier) none engine = (.panic, next)) := by
  rcases inv.exists_candidate notFull tier with ⟨id, rest, shape⟩
  have isCandidate : id ∈ engine.tierBackendCandidates tier := by
    rw [shape]
    exact List.mem_cons_self
  rcases hasRoom_of_candidate isCandidate with ⟨backend, found, hasRoom⟩
  have room := (inv.hasRoom_iff found).mp hasRoom
  have valid := inv.valid found
  rw [shape]
  simp only [Engine.storeOn, found]
  rcases LawfulBackend.alloc valid with
    ⟨full, _⟩ | ⟨_, spent, after, panicked⟩ |
      ⟨_, handle, issued, allocated, issuedValid, slot, issue⟩
  · omega
  · right
    have issued := HashMap.le_total (fun backend => (LawfulBackend.slots backend).issued) found
    refine ⟨spent.trans issued, engine.setBackend id after, ?_⟩
    rw [panicked]
  · left
    have wasFree : (LawfulBackend.slots backend).page handle.offset = none := by
      by_contra occupied
      have below := (LawfulBackend.occupied valid (Option.isSome_iff_ne_none.mpr occupied)).1
      omega
    have stillRoom : (LawfulBackend.slots issued).used < (LawfulBackend.slots issued).total := by
      rw [issue]
      exact room
    have wasIssued : handle.offset.toNat < (LawfulBackend.slots issued).issued := by
      rw [issue, slot]
      exact Nat.lt_succ_self _
    have stillFree : (LawfulBackend.slots issued).page handle.offset = none := by
      rw [issue]
      exact wasFree
    rcases LawfulBackend.store data issuedValid stillRoom wasIssued stillFree with
      ⟨after, stored, stillValid, put⟩
    rw [issue] at put
    refine ⟨handle, engine.placed env offset handle id tier after, ?_,
      inv.place untracked found stillValid wasFree put⟩
    rw [allocated]
    simp only [stored]
    rfl

/-- An eviction leaves room for a page. -/
structure Evicted (engine roomy : Engine Backend) (victim : UInt64) : Prop where
  inv : roomy.Inv
  contents : roomy.contents = update engine.contents victim none
  follows : engine.Follows roomy 0
  notFull : ¬roomy.Full
  untracked : ∀ offset, engine.policy.lookup offset = none → roomy.policy.lookup offset = none

theorem Inv.evict (inv : engine.Inv) {victim : UInt64} {entry : PageMeta}
    (listed : engine.policy.lookup victim = some entry) :
    engine.Evicted { engine.dropped victim entry with
      stats := (engine.dropped victim entry).stats.invalidated } victim := by
  have drop := inv.drop listed
  have same : SamePlaces (engine.dropped victim entry)
      { engine.dropped victim entry with
        stats := (engine.dropped victim entry).stats.invalidated } :=
    samePlaces_of_eq rfl rfl
  have roomyInv := same.inv drop.inv
  refine ⟨roomyInv, same.contents_eq.trans drop.contents, ?_, ?_, ?_⟩
  · simpa using drop.follows.trans same.follows
  · apply not_full_of_lt
    have before := inv.usedPages_le
    rw [inv.counted, ← drop.size, ← same.size, ← roomyInv.counted, ← drop.follows.total,
      ← same.follows.total] at before
    omega
  · intro offset untracked
    have different : offset ≠ victim := by
      rintro rfl
      rw [untracked] at listed
      cases listed
    exact (lookup_dropped victim offset).trans ((if_neg different).trans untracked)

theorem Inv.storePage (inv : engine.Inv) (env : CallEnv) (offset : UInt64) (data : PageBuffer) :
    engine.Stored offset data (engine.evicted env offset)
      (Engine.storePage env engine offset data).1 (Engine.storePage env engine offset data).2 := by
  have released := inv.releaseOld offset
  rw [Engine.storePage, chooseTier, evicted]
  cases selected : PolicyEngine.selectTier (engine.releaseOld offset).backendCapacities with
  | some tier =>
      have notFull : ¬(engine.releaseOld offset).Full := by
        intro full
        rw [released.inv.selectTier_eq_none_iff.mpr full] at selected
        simp at selected
      rcases released.inv.storeOn env data tier released.untracked notFull with
        ⟨handle, next, stored, nextInv, contents, follows⟩ | ⟨spent, next, panicked⟩
      · simp only [stored]
        refine .placed notFull nextInv ?_ ?_
        · rw [contents, released.contents, Function.update_idem]
        · simpa using released.follows.trans follows
      · simp only [panicked]
        apply Stored.panicked
        rw [released.follows.issued] at spent
        exact spent
  | none =>
      have full := released.inv.selectTier_eq_none_iff.mp selected
      simp only
      rw [tryEvictOne]
      rcases released.inv.tryEvictFrom env (engine.releaseOld offset).backends.keys with
        ⟨unchanged, noCandidate⟩ | ⟨id, victim, entry, leastRecent, evicted⟩
      · simp only [unchanged]
        have same : SamePlaces (engine.releaseOld offset)
            { engine.releaseOld offset with
              stats := (engine.releaseOld offset).stats.storeFailed } :=
          samePlaces_of_eq rfl rfl
        refine .refused full ?_ (same.inv released.inv) ?_ ?_
        · intro other entry listed
          rcases released.inv.holder listed with ⟨backend, found, _⟩
          have isKey : entry.backendId ∈ (engine.releaseOld offset).backends.keys :=
            AList.mem_keys.mp (HashMap.mem_of_lookup_eq_some found)
          exact PolicyEngine.pinned_of_no_candidate (noCandidate _ isKey) listed rfl
        · rw [same.contents_eq, released.contents]
        · simpa using released.follows.trans same.follows
      · have roomy := released.inv.evict leastRecent.listed
        have follows := released.follows.trans roomy.follows
        have different : offset ≠ victim := by
          rintro rfl
          cases released.untracked.symm.trans leastRecent.listed
        rw [evicted]
        generalize ({ (engine.releaseOld offset).dropped victim entry with
          stats := ((engine.releaseOld offset).dropped victim entry).stats.invalidated } :
            Engine Backend) = after at roomy follows
        simp only
        cases reselected : PolicyEngine.selectTier after.backendCapacities with
        | none => exact absurd (roomy.inv.selectTier_eq_none_iff.mp reselected) roomy.notFull
        | some tier =>
            simp only
            rcases roomy.inv.storeOn env data tier (roomy.untracked offset released.untracked)
              roomy.notFull with
              ⟨handle, next, stored, nextInv, contents, placing⟩ | ⟨spent, next, panicked⟩
            · simp only [stored]
              refine .evicting full leastRecent nextInv ?_ ?_
              · rw [contents, roomy.contents, released.contents, Function.update_comm different,
                  Function.update_idem]
              · simpa using follows.trans placing
            · simp only [panicked]
              apply Stored.panicked
              rw [follows.issued] at spent
              exact spent

theorem Inv.loadPage (inv : engine.Inv) (env : CallEnv) (offset : UInt64) :
    (∀ data, engine.contents offset = some data →
      (Engine.loadPage env engine offset).1 = .ok data) ∧
    (engine.contents offset = none →
      ∃ error, (Engine.loadPage env engine offset).1 = .error error) ∧
    SamePlaces engine (Engine.loadPage env engine offset).2 := by
  rw [Engine.loadPage, contents]
  cases listed : engine.policy.lookup offset with
  | none => exact ⟨by simp, fun _ => ⟨_, rfl⟩, samePlaces_of_eq rfl rfl⟩
  | some entry =>
      rcases inv.holder listed with ⟨backend, found, occupied⟩
      rcases Option.isSome_iff_exists.mp occupied with ⟨page, isPage⟩
      have loaded := (LawfulBackend.load entry.handle (inv.valid found)).1 page isPage
      simp only [found, loaded, Option.bind_some]
      rw [pageAt_of_found found, isPage]
      refine ⟨?_, by simp, ?_⟩
      · intro data isData
        rw [Option.some.inj isData]
      · have kept : (engine.setBackend entry.backendId backend).backends = engine.backends :=
          HashMap.replace_self found
        exact samePlaces_of_retouched kept (PolicyEngine.retouched_recordLoad _ env offset)

theorem Inv.invalidatePage (inv : engine.Inv) (offset : UInt64) :
    (Engine.invalidatePage engine offset).1 = .ok () ∧
      engine.Released (Engine.invalidatePage engine offset).2 offset := by
  rw [Engine.invalidatePage]
  cases listed : engine.policy.lookup offset with
  | none =>
      refine ⟨rfl, inv, ?_, listed, Follows.refl engine⟩
      rw [← contents_eq_none listed, Function.update_eq_self]
  | some entry =>
      have drop := inv.drop listed
      simp only
      rw [drop.freed]
      have same : SamePlaces (engine.dropped offset entry)
          { engine.dropped offset entry with
            stats := (engine.dropped offset entry).stats.invalidated } :=
        samePlaces_of_eq rfl rfl
      refine ⟨rfl, same.inv drop.inv, same.contents_eq.trans drop.contents, ?_, ?_⟩
      · exact (lookup_dropped offset offset).trans (if_pos rfl)
      · simpa using drop.follows.trans same.follows

end Engine

end Duvm.Daemon
