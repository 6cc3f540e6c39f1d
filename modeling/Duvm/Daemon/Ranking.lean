import Duvm.Daemon.Placement

/-!
# The ranking of pages for eviction

`find_eviction_candidates` filters, sorts and truncates; `find_eviction_candidate`
scans for the minimum. Both depend on the order in which the hash map is
iterated, which may break ties in either way. Whatever the order, the pages
returned are those used least recently, and the two functions agree on how long
ago the first of them was used.
-/

namespace Duvm.Daemon

namespace PolicyEngine

/-- When the page of an offset was last used, and how often it was. -/
def useKey (policy : PolicyEngine) (offset : UInt64) : Option (ℕ × UInt32) :=
  (policy.lookup offset).map fun entry => (entry.lastAccess, entry.accessCount)

/-- The pages of a backend which are not pinned. -/
def unpinnedIn (policy : PolicyEngine) (backendId : UInt8) : List UInt64 :=
  (policy.pages.entries.filter fun page =>
    page.2.backendId = backendId && !page.2.flags.contains .PINNED).map Sigma.fst

/-- The page of the second offset was not used before that of the first one. -/
def UsedInOrder (policy : PolicyEngine) (first second : UInt64) : Prop :=
  ∃ firstKey secondKey, policy.useKey first = some firstKey ∧
    policy.useKey second = some secondKey ∧ usedBefore secondKey firstKey = false

/-- The first `count` of the unpinned pages of a backend, by the time of their last use. -/
structure RanksLeastRecent (policy : PolicyEngine) (backendId : UInt8) (count : ℕ)
    (offsets : List UInt64) : Prop where
  nodup : offsets.Nodup
  length : offsets.length = min count (policy.unpinnedIn backendId).length
  unpinned : ∀ offset ∈ offsets, offset ∈ policy.unpinnedIn backendId
  sorted : offsets.Pairwise policy.UsedInOrder
  least : ∀ offset ∈ offsets, ∀ omitted ∈ policy.unpinnedIn backendId, omitted ∉ offsets →
    policy.UsedInOrder offset omitted

theorem eq_of_not_usedBefore {first second : ℕ × UInt32}
    (notFirst : usedBefore first second = false) (notSecond : usedBefore second first = false) :
    first = second := by
  simp only [usedBefore, Bool.or_eq_false_iff, decide_eq_false_iff_not, Bool.and_eq_false_iff,
    beq_eq_false_iff_ne, UInt32.lt_iff_toNat_lt] at notFirst notSecond
  apply Prod.ext
  · omega
  · apply UInt32.toNat_inj.mp
    omega

variable {policy : PolicyEngine} {env : CallEnv} {id : UInt8}

/-- The iteration order only rearranges the pages. -/
theorem perm_evictable (policy : PolicyEngine) (env : CallEnv) (id : UInt8) :
    ((policy.evictable env id).map Sigma.fst).Perm (policy.unpinnedIn id) :=
  ((env.iter.perm policy.pages.entries).filter _).map _

theorem nodup_unpinnedIn (policy : PolicyEngine) (id : UInt8) : (policy.unpinnedIn id).Nodup := by
  have distinct : policy.pages.keys.Nodup := policy.pages.keys_nodup
  exact distinct.sublist (List.filter_sublist.map _)

theorem length_evictable (policy : PolicyEngine) (env : CallEnv) (id : UInt8) :
    (policy.evictable env id).length = (policy.unpinnedIn id).length := by
  rw [← (policy.perm_evictable env id).length_eq, List.length_map]

theorem useKey_of_evictable {page : TrackedPage} (listed : page ∈ policy.evictable env id) :
    policy.useKey page.1 = some (page.2.lastAccess, page.2.accessCount) := by
  rw [useKey, (mem_evictable.mp listed).1]
  rfl

/-- The order of the keys, for pages which may be evicted. -/
theorem usedInOrder_of_inOrder {first second : TrackedPage}
    (firstListed : first ∈ policy.evictable env id)
    (secondListed : second ∈ policy.evictable env id)
    (ordered : Selection.InOrder usedBefore
      (fun page : TrackedPage => (page.2.lastAccess, page.2.accessCount)) first second) :
    policy.UsedInOrder first.1 second.1 :=
  ⟨_, _, useKey_of_evictable firstListed, useKey_of_evictable secondListed, ordered⟩

theorem ranks_findEvictionCandidates (policy : PolicyEngine) (env : CallEnv) (id : UInt8)
    (count : ℕ) :
    policy.RanksLeastRecent id count (policy.findEvictionCandidates env id count) := by
  rcases strictWeak_usedBefore.ranked_spec count (policy.evictable env id) with
    ⟨omitted, split, sorted, least⟩
  have offsets := (split.map Sigma.fst).trans (policy.perm_evictable env id)
  rw [List.map_append] at offsets
  have distinct := offsets.nodup_iff.mpr (policy.nodup_unpinnedIn id)
  have listed : ∀ page ∈ Selection.ranked usedBefore
      (fun page : TrackedPage => (page.2.lastAccess, page.2.accessCount)) count
      (policy.evictable env id), page ∈ policy.evictable env id := fun page inside =>
    split.subset (List.mem_append_left _ inside)
  refine ⟨?_, ?_, ?_, ?_, ?_⟩
  · exact (List.nodup_append.mp distinct).1
  · rw [findEvictionCandidates, List.length_map, Selection.length_ranked, length_evictable]
  · intro offset inside
    exact offsets.subset (List.mem_append_left _ inside)
  · rw [findEvictionCandidates, List.pairwise_map]
    refine sorted.imp_of_mem ?_
    intro first second firstInside secondInside ordered
    exact usedInOrder_of_inOrder (listed first firstInside) (listed second secondInside) ordered
  · intro offset inside other unpinned absent
    rcases List.mem_map.mp inside with ⟨first, firstInside, rfl⟩
    -- An unpinned page which is not returned is among those left out by the truncation.
    rcases List.mem_append.mp (offsets.symm.subset unpinned) with returned | leftOut
    · exact absurd returned absent
    · rcases List.mem_map.mp leftOut with ⟨second, secondInside, rfl⟩
      refine usedInOrder_of_inOrder (listed first firstInside) ?_
        (least first firstInside second secondInside)
      exact split.subset (List.mem_append_right _ secondInside)

theorem findEvictionCandidate_isSome_iff (policy : PolicyEngine) (env : CallEnv) (id : UInt8) :
    (policy.findEvictionCandidate env id).isSome ↔ 0 < (policy.unpinnedIn id).length := by
  rw [← policy.length_evictable env id, findEvictionCandidate, Option.isSome_map]
  cases policy.evictable env id with
  | nil => simp [Selection.minBy]
  | cons page rest => simp [Selection.minBy]

theorem mem_unpinnedIn {offset : UInt64} :
    offset ∈ policy.unpinnedIn id ↔ ∃ entry, policy.lookup offset = some entry ∧
      entry.backendId = id ∧ entry.flags.contains .PINNED = false := by
  rw [← (policy.perm_evictable ⟨0, .listed _⟩ id).mem_iff, List.mem_map]
  constructor
  · rintro ⟨⟨offset, entry⟩, listed, rfl⟩
    exact ⟨entry, mem_evictable.mp listed⟩
  · rintro ⟨entry, tracked⟩
    exact ⟨⟨offset, entry⟩, mem_evictable.mpr tracked, rfl⟩

/-- No unpinned page has to come before the first one of a ranking. -/
theorem RanksLeastRecent.first_le {first other : UInt64} {rest : List UInt64} {count : ℕ}
    (ranks : policy.RanksLeastRecent id count (first :: rest))
    (unpinned : other ∈ policy.unpinnedIn id) (different : other ≠ first) :
    policy.UsedInOrder first other := by
  by_cases returned : other ∈ rest
  · exact (List.pairwise_cons.mp ranks.sorted).1 other returned
  · refine ranks.least first List.mem_cons_self other unpinned ?_
    intro listed
    exact (List.mem_cons.mp listed).elim different returned

/-- The page which the scan finds was last used when the first one of a ranking was. -/
theorem RanksLeastRecent.useKey_eq {chosen first : UInt64} {rest : List UInt64} {count : ℕ}
    (ranks : policy.RanksLeastRecent id count (first :: rest))
    (found : policy.findEvictionCandidate env id = some chosen) :
    policy.useKey chosen = policy.useKey first := by
  rcases leastRecent_of_candidate found with ⟨entry, least⟩
  by_cases same : chosen = first
  · rw [same]
  · have unpinned : chosen ∈ policy.unpinnedIn id :=
      mem_unpinnedIn.mpr ⟨entry, least.listed, least.onBackend, least.unpinned⟩
    rcases ranks.first_le unpinned same with ⟨firstKey, chosenKey, ofFirst, ofChosen, ordered⟩
    rcases mem_unpinnedIn.mp (ranks.unpinned first List.mem_cons_self) with
      ⟨second, listed, onBackend, notPinned⟩
    have notBefore := least.least first second listed onBackend notPinned
    have isFirst : firstKey = (second.lastAccess, second.accessCount) := by
      rw [useKey, listed] at ofFirst
      exact (Option.some.inj ofFirst).symm
    have isChosen : chosenKey = (entry.lastAccess, entry.accessCount) := by
      rw [useKey, least.listed] at ofChosen
      exact (Option.some.inj ofChosen).symm
    rw [← isFirst, ← isChosen] at notBefore
    rw [ofFirst, ofChosen, eq_of_not_usedBefore notBefore ordered]

/-- For any two iteration orders: the candidates are the least recently used of the unpinned
pages of the backend, in order and as many as asked for, and the single candidate exists if
there is such a page and was last used when the first of the candidates was. -/
theorem eviction_ranking_exact (policy : PolicyEngine) (env other : CallEnv) (id : UInt8)
    (count : ℕ) :
    policy.RanksLeastRecent id count (policy.findEvictionCandidates env id count) ∧
      ((policy.findEvictionCandidate other id).isSome ↔ 0 < (policy.unpinnedIn id).length) ∧
      ∀ chosen, policy.findEvictionCandidate other id = some chosen → 1 ≤ count →
        ∃ first key, (policy.findEvictionCandidates env id count).head? = some first ∧
          policy.useKey chosen = some key ∧ policy.useKey first = some key := by
  have ranks := policy.ranks_findEvictionCandidates env id count
  refine ⟨ranks, policy.findEvictionCandidate_isSome_iff other id, ?_⟩
  intro chosen found asked
  have some_unpinned := (policy.findEvictionCandidate_isSome_iff other id).mp (by rw [found]; rfl)
  have length := ranks.length
  cases candidates : policy.findEvictionCandidates env id count with
  | nil =>
      rw [candidates, List.length_nil] at length
      omega
  | cons first rest =>
      rw [candidates] at ranks
      rcases leastRecent_of_candidate found with ⟨entry, least⟩
      have chosenKey : policy.useKey chosen = some (entry.lastAccess, entry.accessCount) := by
        rw [useKey, least.listed]
        rfl
      exact ⟨first, _, rfl, chosenKey, (ranks.useKey_eq found).symm.trans chosenKey⟩

end PolicyEngine

end Duvm.Daemon
