import Duvm.Backend.Rdma
import Duvm.Daemon.Pinning
import Duvm.Daemon.Remote
import Duvm.Library.Rounding

/-!
# Tiers and candidates

`select_tier` decides from a snapshot of the capacities which tier a page goes to, and
`tier_backend_candidates` decides for itself which backends of that tier may take it and
in which order. The two agree, so the fallback to any tier is never taken, and the tier
which is recorded for a page is the one of its backend.

The candidates are ranked by how full they are, as doubles. That is the order of the
exact quotients for backends of any ordinary size, but not for huge ones.
-/

namespace Duvm

universe u v

/-- The operations of a backend do not change its tier. -/
class FixedTier (Backend : Type u) [DuvmBackend Backend] : Prop where
  allocPage : ∀ backend : Backend,
    DuvmBackend.tier (DuvmBackend.allocPage backend).2 = DuvmBackend.tier backend
  storePage : ∀ (backend : Backend) handle data,
    DuvmBackend.tier (DuvmBackend.storePage backend handle data).2 = DuvmBackend.tier backend
  loadPage : ∀ (backend : Backend) handle,
    DuvmBackend.tier (DuvmBackend.loadPage backend handle).2 = DuvmBackend.tier backend
  freePage : ∀ (backend : Backend) handle,
    DuvmBackend.tier (DuvmBackend.freePage backend handle).2 = DuvmBackend.tier backend

instance : FixedTier TcpLink where
  allocPage _ := rfl
  storePage _ _ _ := rfl
  loadPage _ _ := rfl
  freePage _ _ := rfl

instance : FixedTier RdmaBackend where
  allocPage _ := rfl
  storePage _ _ _ := rfl
  loadPage _ _ := rfl
  freePage _ _ := rfl

instance {codec : Lz4} : FixedTier (LocalBackend codec) where
  allocPage backend := by cases backend <;> rfl
  storePage backend _ _ := by cases backend <;> rfl
  loadPage backend _ := by cases backend <;> rfl
  freePage backend _ := by cases backend <;> rfl

instance {Left : Type u} {Right : Type v} [DuvmBackend Left] [DuvmBackend Right] [FixedTier Left]
    [FixedTier Right] : FixedTier (Left ⊕ Right) where
  allocPage backend := by
    cases backend with
    | inl left => exact FixedTier.allocPage left
    | inr right => exact FixedTier.allocPage right
  storePage backend handle data := by
    cases backend with
    | inl left => exact FixedTier.storePage left handle data
    | inr right => exact FixedTier.storePage right handle data
  loadPage backend handle := by
    cases backend with
    | inl left => exact FixedTier.loadPage left handle
    | inr right => exact FixedTier.loadPage right handle
  freePage backend handle := by
    cases backend with
    | inl left => exact FixedTier.freePage left handle
    | inr right => exact FixedTier.freePage right handle

end Duvm

namespace Duvm.Daemon

universe u

namespace PolicyEngine

/-- The position of a tier in the order of preference. -/
def rank (tier : Tier) : ℕ := tierPreference.idxOf tier

theorem selectTier_eq_some_iff {capacities : List BackendCapacity} {tier : Tier} :
    selectTier capacities = some tier ↔
      (∃ capacity ∈ capacities, capacity.tier = tier ∧ capacity.hasCapacity = true) ∧
        ∀ capacity ∈ capacities, capacity.hasCapacity = true →
          rank tier ≤ rank capacity.tier := by
  have qualified : ∀ candidate : Tier,
      (!(capacities.filter fun capacity =>
        capacity.tier = candidate && capacity.hasCapacity).isEmpty) = true ↔
      ∃ capacity ∈ capacities, capacity.tier = candidate ∧ capacity.hasCapacity = true := by
    intro candidate
    simp [List.filter_eq_nil_iff]
  rw [selectTier, Selection.find?_eq_some_iff_idxOf]
  simp only [qualified, mem_tierPreference, true_and, true_implies]
  refine and_congr_right fun _ => ⟨?_, ?_⟩
  · intro least capacity listed hasCapacity
    exact least _ ⟨capacity, listed, rfl, hasCapacity⟩
  · rintro least _ ⟨capacity, listed, rfl, hasCapacity⟩
    exact least capacity listed hasCapacity

/-- Every entry which is there was there before, for the same backend and tier. -/
def Retains (policy next : PolicyEngine) : Prop :=
  ∀ offset entry, next.lookup offset = some entry →
    ∃ old, policy.lookup offset = some old ∧ old.backendId = entry.backendId ∧
      old.tier = entry.tier

theorem Retains.refl (policy : PolicyEngine) : policy.Retains policy :=
  fun _ entry listed => ⟨entry, listed, rfl, rfl⟩

theorem retains_replace {policy : PolicyEngine} {offset : UInt64} {entry updated : PageMeta}
    (listed : policy.pages.lookup offset = some entry)
    (sameBackend : entry.backendId = updated.backendId) (sameTier : entry.tier = updated.tier) :
    policy.Retains ⟨policy.pages.replace offset updated⟩ := by
  intro other found isFound
  rcases HashMap.new_or_old listed isFound with ⟨rfl, rfl⟩ | ⟨_, wasListed⟩
  · exact ⟨entry, listed, sameBackend, sameTier⟩
  · exact ⟨found, wasListed, rfl, rfl⟩

theorem retains_recordLoad (policy : PolicyEngine) (env : CallEnv) (offset : UInt64) :
    policy.Retains (policy.recordLoad env offset) := by
  unfold recordLoad
  cases listed : policy.pages.lookup offset with
  | none => exact .refl policy
  | some entry => exact retains_replace listed rfl rfl

theorem retains_setFlag (policy : PolicyEngine) (offset : UInt64) (flag : PageFlags) :
    policy.Retains (policy.setFlag offset flag) := by
  unfold setFlag
  cases listed : policy.pages.lookup offset with
  | none => exact .refl policy
  | some entry => exact retains_replace listed rfl rfl

theorem retains_clearFlag (policy : PolicyEngine) (offset : UInt64) (flag : PageFlags) :
    policy.Retains (policy.clearFlag offset flag) := by
  unfold clearFlag
  cases listed : policy.pages.lookup offset with
  | none => exact .refl policy
  | some entry => exact retains_replace listed rfl rfl

end PolicyEngine

namespace Engine

variable {Backend : Type u} [DuvmBackend Backend]

/-- The backend has the identifier, is of the tier, healthy and not full. -/
structure RoomyAt (engine : Engine Backend) (tier : Tier) (id : UInt8) (backend : Backend) :
    Prop where
  found : engine.backends.lookup id = some backend
  inTier : DuvmBackend.tier backend = tier
  room : hasRoom backend = true

def HasRoomIn (engine : Engine Backend) (tier : Tier) : Prop :=
  ∃ id backend, engine.RoomyAt tier id backend

theorem selectTier_eq_some_iff {engine : Engine Backend} {tier : Tier} :
    PolicyEngine.selectTier engine.backendCapacities = some tier ↔
      engine.HasRoomIn tier ∧
        ∀ other, engine.HasRoomIn other → PolicyEngine.rank tier ≤ PolicyEngine.rank other := by
  rw [PolicyEngine.selectTier_eq_some_iff, backendCapacities, List.forall_mem_map]
  simp only [List.mem_map, exists_exists_and_eq_and]
  constructor
  · rintro ⟨⟨⟨id, backend⟩, listed, inTier, room⟩, first⟩
    refine ⟨⟨id, backend, HashMap.mem_entries_iff.mp listed, inTier, room⟩, ?_⟩
    rintro other ⟨otherId, otherBackend, found, rfl, otherRoom⟩
    exact first ⟨otherId, otherBackend⟩ (HashMap.mem_entries_iff.mpr found) otherRoom
  · rintro ⟨⟨id, backend, found, inTier, room⟩, first⟩
    refine ⟨⟨⟨id, backend⟩, HashMap.mem_entries_iff.mpr found, inTier, room⟩, ?_⟩
    intro entry listed otherRoom
    exact first _ ⟨entry.1, entry.2, HashMap.mem_entries_iff.mp listed, rfl, otherRoom⟩

theorem exists_selectTier_iff (engine : Engine Backend) :
    (∃ tier, PolicyEngine.selectTier engine.backendCapacities = some tier) ↔
      ∃ tier, engine.HasRoomIn tier := by
  rw [← Option.isSome_iff_exists, ← not_iff_not, Option.not_isSome_iff_eq_none,
    PolicyEngine.selectTier_eq_none_iff, backendCapacities, List.forall_mem_map]
  constructor
  · rintro noRoom ⟨tier, id, backend, found, _, room⟩
    have spent := noRoom ⟨id, backend⟩ (HashMap.mem_entries_iff.mpr found)
    cases room.symm.trans spent
  · intro noTier entry listed
    rw [← Bool.not_eq_true]
    intro room
    exact noTier ⟨_, entry.1, entry.2, HashMap.mem_entries_iff.mp listed, rfl, room⟩

variable {measure : UInt64 × UInt64 → ℚ} {engine : Engine Backend} {tier : Tier}

/-- Less full, or as full and with the smaller identifier. -/
def Before (measure : UInt64 × UInt64 → ℚ) (engine : Engine Backend) (left right : UInt8) : Prop :=
  ∃ first second, engine.backends.lookup left = some first ∧
    engine.backends.lookup right = some second ∧
    (measure (DuvmBackend.capacity first) < measure (DuvmBackend.capacity second) ∨
      measure (DuvmBackend.capacity first) = measure (DuvmBackend.capacity second) ∧ left < right)

instance : Std.Total loadOrder where
  total left right := by
    unfold loadOrder
    rcases lt_trichotomy left.2 right.2 with less | equal | greater
    · exact Or.inl (Or.inl less)
    · rcases UInt8.le_total left.1 right.1 with below | above
      · exact Or.inl (Or.inr ⟨equal, below⟩)
      · exact Or.inr (Or.inr ⟨equal.symm, above⟩)
    · exact Or.inr (Or.inl greater)

instance : IsTrans (UInt8 × ℚ) loadOrder where
  trans first second third := by
    rintro (less | ⟨equal, below⟩) (nextLess | ⟨nextEqual, nextBelow⟩)
    · exact Or.inl (less.trans nextLess)
    · exact Or.inl (nextEqual ▸ less)
    · exact Or.inl (equal ▸ nextLess)
    · exact Or.inr ⟨equal.trans nextEqual, UInt8.le_trans below nextBelow⟩

/-- The entries of the backends which are kept, least full first. -/
def ranked (measure : UInt64 × UInt64 → ℚ) (engine : Engine Backend)
    (keep : (Σ _ : UInt8, Backend) → Bool) : List (UInt8 × ℚ) :=
  ((engine.backends.entries.filter keep).map fun entry =>
    (entry.1, measure (DuvmBackend.capacity entry.2))).insertionSort loadOrder

theorem mem_ranked {keep : (Σ _ : UInt8, Backend) → Bool} {entry : UInt8 × ℚ} :
    entry ∈ engine.ranked measure keep ↔
      ∃ backend, engine.backends.lookup entry.1 = some backend ∧ keep ⟨entry.1, backend⟩ = true ∧
        entry.2 = measure (DuvmBackend.capacity backend) := by
  simp only [ranked, List.mem_insertionSort, List.mem_map, List.mem_filter]
  constructor
  · rintro ⟨⟨id, backend⟩, ⟨listed, kept⟩, rfl⟩
    exact ⟨backend, HashMap.mem_entries_iff.mp listed, kept, rfl⟩
  · rintro ⟨backend, found, kept, isMeasure⟩
    exact ⟨⟨entry.1, backend⟩, ⟨HashMap.mem_entries_iff.mpr found, kept⟩,
      Prod.ext rfl isMeasure.symm⟩

theorem nodup_ranked (measure : UInt64 × UInt64 → ℚ) (engine : Engine Backend)
    (keep : (Σ _ : UInt8, Backend) → Bool) :
    ((engine.ranked measure keep).map Prod.fst).Nodup := by
  rw [ranked, ((List.perm_insertionSort loadOrder _).map Prod.fst).nodup_iff, List.map_map]
  exact List.Nodup.sublist (List.filter_sublist.map _) engine.backends.nodupKeys

theorem pairwise_ranked (measure : UInt64 × UInt64 → ℚ) (engine : Engine Backend)
    (keep : (Σ _ : UInt8, Backend) → Bool) :
    ((engine.ranked measure keep).map Prod.fst).Pairwise (engine.Before measure) := by
  have distinct := List.pairwise_map.mp (nodup_ranked measure engine keep)
  have sorted : (engine.ranked measure keep).Pairwise loadOrder :=
    List.pairwise_insertionSort loadOrder _
  rw [List.pairwise_map]
  refine (sorted.and distinct).imp_of_mem ?_
  rintro left right leftListed rightListed ⟨ordered, different⟩
  rcases mem_ranked.mp leftListed with ⟨first, leftFound, _, leftMeasure⟩
  rcases mem_ranked.mp rightListed with ⟨second, rightFound, _, rightMeasure⟩
  refine ⟨first, second, leftFound, rightFound, ?_⟩
  rw [loadOrder, leftMeasure, rightMeasure] at ordered
  rcases ordered with less | ⟨equal, atMost⟩
  · exact Or.inl less
  · exact Or.inr ⟨equal, UInt8.lt_of_le_of_ne atMost different⟩

/-- `tier_backend_candidates`, whichever way it measures how full a backend is. -/
def candidatesBy (measure : UInt64 × UInt64 → ℚ) (engine : Engine Backend) (tier : Tier) :
    List UInt8 :=
  let inTier := engine.backends.entries.filter fun entry =>
    DuvmBackend.tier entry.2 = tier && hasRoom entry.2
  let candidates :=
    if inTier.isEmpty then engine.backends.entries.filter fun entry => hasRoom entry.2
    else inTier
  ((candidates.map fun entry => (entry.1, measure (DuvmBackend.capacity entry.2))).insertionSort
    loadOrder).map Prod.fst

theorem candidatesBy_utilization (engine : Engine Backend) (tier : Tier) :
    engine.candidatesBy utilization tier = engine.tierBackendCandidates tier := rfl

/-- With a backend of the tier there is no fallback to the others. -/
theorem candidatesBy_eq (roomy : engine.HasRoomIn tier) :
    engine.candidatesBy measure tier =
      (engine.ranked measure fun entry =>
        DuvmBackend.tier entry.2 = tier && hasRoom entry.2).map Prod.fst := by
  rcases roomy with ⟨id, backend, found, inTier, room⟩
  have listed : (⟨id, backend⟩ : Σ _ : UInt8, Backend) ∈ engine.backends.entries.filter
      fun entry => DuvmBackend.tier entry.2 = tier && hasRoom entry.2 := by
    simp [HashMap.mem_entries_iff, found, inTier, room]
  simp only [candidatesBy, ranked]
  rw [if_neg]
  rw [List.isEmpty_iff]
  exact List.ne_nil_of_mem listed

theorem mem_candidatesBy (roomy : engine.HasRoomIn tier) {id : UInt8} :
    id ∈ engine.candidatesBy measure tier ↔ ∃ backend, engine.RoomyAt tier id backend := by
  rw [candidatesBy_eq roomy]
  simp only [List.mem_map, mem_ranked, Bool.and_eq_true, decide_eq_true_eq]
  constructor
  · rintro ⟨entry, ⟨backend, found, ⟨inTier, room⟩, _⟩, rfl⟩
    exact ⟨backend, found, inTier, room⟩
  · rintro ⟨backend, found, inTier, room⟩
    exact ⟨(id, measure (DuvmBackend.capacity backend)),
      ⟨backend, found, ⟨inTier, room⟩, rfl⟩, rfl⟩

/-- The candidates of a tier, for a way to measure how full a backend is. -/
structure Ranking (measure : UInt64 × UInt64 → ℚ) (engine : Engine Backend) (tier : Tier)
    (candidates : List UInt8) : Prop where
  nonempty : candidates ≠ []
  distinct : candidates.Nodup
  exactly : ∀ id, id ∈ candidates ↔ ∃ backend, engine.RoomyAt tier id backend
  ordered : candidates.Pairwise (engine.Before measure)

theorem ranking_candidatesBy (roomy : engine.HasRoomIn tier) :
    engine.Ranking measure tier (engine.candidatesBy measure tier) where
  nonempty := by
    rcases roomy with ⟨id, backend, isRoomy⟩
    have listed : id ∈ engine.candidatesBy measure tier :=
      (mem_candidatesBy ⟨id, backend, isRoomy⟩).mpr ⟨backend, isRoomy⟩
    exact List.ne_nil_of_mem listed
  distinct := by
    rw [candidatesBy_eq roomy]
    exact nodup_ranked _ _ _
  exactly _ := mem_candidatesBy roomy
  ordered := by
    rw [candidatesBy_eq roomy]
    exact pairwise_ranked _ _ _

/-- The exact quotient of the used and the total pages of one backend is less than that of
another. -/
def LessFull (left right : UInt64 × UInt64) : Prop :=
  left.2.toNat * right.1.toNat < right.2.toNat * left.1.toNat

theorem utilization_of_lt {capacity : UInt64 × UInt64} (room : capacity.2 < capacity.1)
    (small : capacity.1.toNat < 2 ^ 53) :
    utilization capacity = Float64.div capacity.2.toNat capacity.1.toNat := by
  rw [UInt64.lt_iff_toNat_lt] at room
  have positive : capacity.1 ≠ 0 := by
    rintro isZero
    rw [isZero] at room
    exact Nat.not_lt_zero _ room
  rw [utilization, if_neg positive, Float64.ofNat_of_lt small,
    Float64.ofNat_of_lt (room.trans small)]

/-- Backends of ordinary size compare by the exact quotients. -/
theorem utilization_lt_iff {left right : UInt64 × UInt64} (leftRoom : left.2 < left.1)
    (rightRoom : right.2 < right.1) (small : left.1.toNat * right.1.toNat < 2 ^ 53) :
    utilization left < utilization right ↔ LessFull left right := by
  have leftLess := UInt64.lt_iff_toNat_lt.mp leftRoom
  have rightLess := UInt64.lt_iff_toNat_lt.mp rightRoom
  have leftSmall : left.1.toNat < 2 ^ 53 :=
    (Nat.le_mul_of_pos_right _ (Nat.zero_lt_of_lt rightLess)).trans_lt small
  have rightSmall : right.1.toNat < 2 ^ 53 :=
    (Nat.le_mul_of_pos_left _ (Nat.zero_lt_of_lt leftLess)).trans_lt small
  rw [utilization_of_lt leftRoom leftSmall, utilization_of_lt rightRoom rightSmall,
    Float64.div_lt_div_iff leftLess rightLess small, LessFull]

/-- The exact quotients are the same. -/
def AsFull (left right : UInt64 × UInt64) : Prop :=
  left.2.toNat * right.1.toNat = right.2.toNat * left.1.toNat

/-- Less full by the exact quotients, or as full and with the smaller identifier, unless the
backends are huge. -/
def ExactlyBefore (engine : Engine Backend) (left right : UInt8) : Prop :=
  ∀ first second, engine.backends.lookup left = some first →
    engine.backends.lookup right = some second →
    (DuvmBackend.capacity first).1.toNat * (DuvmBackend.capacity second).1.toNat < 2 ^ 53 →
    LessFull (DuvmBackend.capacity first) (DuvmBackend.capacity second) ∨
      AsFull (DuvmBackend.capacity first) (DuvmBackend.capacity second) ∧ left < right

theorem lt_capacity_of_hasRoom {backend : Backend} (room : hasRoom backend = true) :
    (DuvmBackend.capacity backend).2 < (DuvmBackend.capacity backend).1 := by
  simp only [hasRoom, Bool.and_eq_true, decide_eq_true_eq] at room
  exact room.2

theorem Before.exactly {left right : UInt8} {leftBackend rightBackend : Backend}
    (before : engine.Before utilization left right)
    (leftRoomy : engine.RoomyAt tier left leftBackend)
    (rightRoomy : engine.RoomyAt tier right rightBackend) : engine.ExactlyBefore left right := by
  intro first second leftFound rightFound small
  rcases before with ⟨_, _, firstFound, secondFound, ordered⟩
  cases firstFound.symm.trans leftFound
  cases secondFound.symm.trans rightFound
  cases leftRoomy.found.symm.trans leftFound
  cases rightRoomy.found.symm.trans rightFound
  have leftRoom := lt_capacity_of_hasRoom leftRoomy.room
  have rightRoom := lt_capacity_of_hasRoom rightRoomy.room
  have lessFull := utilization_lt_iff leftRoom rightRoom small
  have moreFull := utilization_lt_iff rightRoom leftRoom (by rwa [Nat.mul_comm])
  rcases ordered with less | ⟨equal, smaller⟩
  · exact Or.inl (lessFull.mp less)
  · have notLess := mt lessFull.mpr equal.not_lt
    have notMore := mt moreFull.mpr equal.not_gt
    exact Or.inr ⟨Nat.le_antisymm (Nat.not_lt.mp notMore) (Nat.not_lt.mp notLess), smaller⟩

/-- The tier of the backend with the identifier. -/
def tierOf (engine : Engine Backend) (id : UInt8) : Option Tier :=
  (engine.backends.lookup id).map DuvmBackend.tier

theorem tierOf_setBackend {id : UInt8} {backend after : Backend}
    (found : engine.backends.lookup id = some backend)
    (sameTier : DuvmBackend.tier after = DuvmBackend.tier backend) :
    (engine.setBackend id after).tierOf = engine.tierOf := by
  funext other
  rw [tierOf, tierOf, lookup_setBackend found]
  split
  · next same => rw [same, found, Option.map_some, Option.map_some, sameTier]
  · rfl

/-- The tier which is chosen is the one selected in the state it is chosen for. -/
theorem selected_of_chooseTier {env : CallEnv} {roomy : Engine Backend}
    (chosen : engine.chooseTier env = (.ok tier, roomy)) :
    PolicyEngine.selectTier roomy.backendCapacities = some tier := by
  unfold chooseTier at chosen
  cases selected : PolicyEngine.selectTier engine.backendCapacities with
  | some first =>
      rw [selected] at chosen
      cases chosen
      exact selected
  | none =>
      rw [selected] at chosen
      cases evicting : engine.tryEvictOne env with
      | mk victim after =>
          rw [evicting] at chosen
          cases victim with
          | none => cases chosen
          | some offset =>
              simp only at chosen
              cases reselected : PolicyEngine.selectTier after.backendCapacities with
              | none =>
                  rw [reselected] at chosen
                  cases chosen
              | some second =>
                  rw [reselected] at chosen
                  cases chosen
                  exact reselected

/-- The loop over the candidates records the page on one of them, with the tier it was given and
no flags. -/
theorem entry_of_storeOn {env : CallEnv} {offset : UInt64} {data : PageBuffer} {ids : List UInt8}
    {lastErr : Option DuvmError} {entry : PageMeta}
    (untracked : engine.policy.lookup offset = none)
    (listed : (storeOn env offset data tier ids lastErr engine).2.policy.lookup offset =
      some entry) : entry.backendId ∈ ids ∧ entry.tier = tier ∧ entry.flags = .empty := by
  induction ids generalizing engine lastErr with
  | nil => cases untracked.symm.trans listed
  | cons id rest ih =>
      have round := tried env offset data tier id rest lastErr engine
      generalize storeOn env offset data tier (id :: rest) lastErr engine = result at listed round
      cases round with
      | absent unknown =>
          rcases ih untracked listed with ⟨isRest, recorded⟩
          exact ⟨List.mem_cons_of_mem _ isRest, recorded⟩
      | panicked backend after found panics => cases untracked.symm.trans listed
      | denied backend after error found refused =>
          rcases @ih (engine.setBackend id after) _ untracked listed with ⟨isRest, recorded⟩
          exact ⟨List.mem_cons_of_mem _ isRest, recorded⟩
      | returned backend issued failed handle error found allocated refused =>
          rcases @ih (engine.setBackend id _) _ untracked listed with ⟨isRest, recorded⟩
          exact ⟨List.mem_cons_of_mem _ isRest, recorded⟩
      | placed backend issued after handle found allocated stored =>
          simp only [lookup_recordStore, if_true] at listed
          cases listed
          exact ⟨List.mem_cons_self, rfl, rfl⟩

/-- A store which tracks its offset has come to the loop over the candidates. -/
theorem chosen_of_stored {env : CallEnv} {offset : UInt64} {data : PageBuffer} {entry : PageMeta}
    (listed : (engine.storePage env offset data).2.policy.lookup offset = some entry) :
    ∃ tier roomy, PolicyEngine.selectTier roomy.backendCapacities = some tier ∧
      roomy.policy.lookup offset = none ∧
      engine.storePage env offset data =
        storeOn env offset data tier (roomy.tierBackendCandidates tier) none roomy := by
  have untracked := untracked_of_moves (fun _ => (Option.some_ne_none _).symm)
    (untracked_releaseOld engine offset) (moves_chooseTier env (engine.releaseOld offset))
  unfold storePage at listed ⊢
  cases chosen : (engine.releaseOld offset).chooseTier env with
  | mk result roomy =>
      rw [chosen] at listed untracked
      cases result with
      | error error => cases untracked.symm.trans listed
      | ok tier => exact ⟨tier, roomy, selected_of_chooseTier chosen, untracked, rfl⟩

theorem retains_loadPage (env : CallEnv) (engine : Engine Backend) (offset : UInt64) :
    engine.policy.Retains (loadPage env engine offset).2.policy := by
  unfold loadPage
  split
  · exact .refl _
  · split
    · exact .refl _
    · split
      · exact .refl _
      · exact PolicyEngine.retains_recordLoad _ env offset

theorem retains_invalidatePage (engine : Engine Backend) (offset : UInt64) :
    engine.policy.Retains (invalidatePage engine offset).2.policy := by
  intro other entry listed
  rw [lookup_invalidatePage] at listed
  split at listed
  · cases listed
  · exact ⟨entry, listed, rfl, rfl⟩

section Recorded

variable [FixedTier Backend] {next : Engine Backend}
  {request : Option (UInt64 × PageBuffer)}

theorem tierOf_freeOn (engine : Engine Backend) (id : UInt8) (handle : PageHandle) :
    (engine.freeOn id handle).2.tierOf = engine.tierOf := by
  unfold freeOn
  cases found : engine.backends.lookup id with
  | none => rfl
  | some backend => exact tierOf_setBackend found (FixedTier.freePage backend handle)

theorem tierOf_move (move : Move request engine next) : next.tierOf = engine.tierOf := by
  cases move with
  | counted stats => rfl
  | dropped offset entry listed => exact tierOf_freeOn _ _ _
  | retouched offset entry updated listed _ _ => rfl
  | asked offset entry backend listed found =>
      exact tierOf_setBackend found (FixedTier.loadPage backend entry.handle)
  | denied id backend after error found refused =>
      have same := FixedTier.allocPage backend
      rw [refused] at same
      exact tierOf_setBackend found same
  | returned id backend issued failed handle data error found allocated refused =>
      have first := FixedTier.allocPage backend
      have second := FixedTier.storePage issued handle data
      rw [allocated] at first
      rw [refused] at second
      exact tierOf_setBackend found
        (((FixedTier.freePage failed handle).trans second).trans first)
  | placed env tier id backend issued after handle offset data _ _ found allocated stored =>
      have first := FixedTier.allocPage backend
      have second := FixedTier.storePage issued handle data
      rw [allocated] at first
      rw [stored] at second
      exact tierOf_setBackend found (second.trans first)

theorem tierOf_moves (moves : Moves request engine next) : next.tierOf = engine.tierOf :=
  invariant_of_moves (fun current => current.tierOf = engine.tierOf)
    (fun _ _ same move => (tierOf_move move).trans same) rfl moves

/-- What a store records is the tier of the backend it chose. -/
theorem tierOf_of_stored {env : CallEnv} {offset : UInt64} {data : PageBuffer} {entry : PageMeta}
    (running : (engine.storePage env offset data).1 ≠ .panic)
    (listed : (engine.storePage env offset data).2.policy.lookup offset = some entry) :
    (engine.storePage env offset data).2.tierOf entry.backendId = some entry.tier := by
  rcases chosen_of_stored listed with ⟨tier, roomy, selected, untracked, result⟩
  rw [result] at running listed ⊢
  have roomyIn := (selectTier_eq_some_iff.mp selected).1
  rcases entry_of_storeOn untracked listed with ⟨isCandidate, sameTier, _⟩
  rw [← candidatesBy_utilization, mem_candidatesBy roomyIn] at isCandidate
  rcases isCandidate with ⟨backend, found, inTier, _⟩
  rw [tierOf_moves (moves_storeOn _ _ _ _ _ _ _ untracked running), tierOf, found,
    Option.map_some, inTier, sameTier]

/-- The tier recorded for a page is the one of the backend which holds it. -/
def Recorded (engine : Engine Backend) : Prop :=
  ∀ offset entry, engine.policy.lookup offset = some entry →
    engine.tierOf entry.backendId = some entry.tier

theorem Recorded.storePage (recorded : engine.Recorded) (env : CallEnv) (offset : UInt64)
    (data : PageBuffer) (running : (engine.storePage env offset data).1 ≠ .panic) :
    (engine.storePage env offset data).2.Recorded := by
  have sameTiers : (engine.storePage env offset data).2.tierOf = engine.tierOf :=
    (tierOf_moves (moves_storePage env engine offset data running)).trans
      (tierOf_moves (@moves_releaseOld _ _ none engine offset))
  intro other entry listed
  by_cases same : other = offset
  · subst same
    exact tierOf_of_stored running listed
  · rw [sameTiers]
    exact recorded other entry ((leftOrTaken_storePage env engine data same).listed listed)

omit [FixedTier Backend] in
theorem Recorded.retained (recorded : engine.Recorded) (sameTiers : next.tierOf = engine.tierOf)
    (retains : engine.policy.Retains next.policy) : next.Recorded := by
  intro offset entry listed
  rcases retains offset entry listed with ⟨old, wasListed, sameBackend, sameTier⟩
  rw [sameTiers, ← sameBackend, ← sameTier]
  exact recorded offset old wasListed

end Recorded

end Engine

namespace Session

variable {Backend : Type u} [DuvmBackend Backend] {session next : Session Backend}

theorem recorded_step [FixedTier Backend] {action : CallEnv × Call}
    (recorded : session.engine.Recorded) (stepped : session.step action = some next) :
    next.engine.Recorded := by
  rw [engine_of_step stepped]
  rcases action with ⟨env, call⟩
  cases call with
  | store offset data => exact recorded.storePage env offset data (running_of_step stepped)
  | load offset =>
      exact recorded.retained (Engine.tierOf_moves (@Engine.moves_loadPage _ _ none env _ offset))
        (Engine.retains_loadPage env session.engine offset)
  | invalidate offset =>
      exact recorded.retained (Engine.tierOf_moves (@Engine.moves_invalidatePage _ _ none _ offset))
        (Engine.retains_invalidatePage session.engine offset)
  | setFlag offset flag => exact recorded.retained rfl (PolicyEngine.retains_setFlag _ _ _)
  | clearFlag offset flag => exact recorded.retained rfl (PolicyEngine.retains_clearFlag _ _ _)

theorem recorded_of_run [FixedTier Backend] {backends : HashMap UInt8 Backend}
    {actions : List (CallEnv × Call)}
    (reached : Transition.run step (start backends) actions = some session) :
    session.engine.Recorded := by
  refine @Transition.run_invariant _ _ step (fun session => session.engine.Recorded) _ _ _ ?_
    (fun _ _ _ recorded stepped => recorded_step recorded stepped) reached
  intro offset entry listed
  cases (AList.lookup_empty offset).symm.trans listed

end Session

open Engine in
/-- The choice of a tier and the candidates of that tier agree, and so the tier recorded for a
page is the one of its backend. -/
theorem tier_and_candidates_agree (Backend : Type u) [DuvmBackend Backend] :
    (∀ engine : Engine Backend,
      ((∃ tier, PolicyEngine.selectTier engine.backendCapacities = some tier) ↔
        ∃ id backend, engine.backends.lookup id = some backend ∧ hasRoom backend = true) ∧
      (∀ tier, PolicyEngine.selectTier engine.backendCapacities = some tier ↔
        engine.HasRoomIn tier ∧
          ∀ other, engine.HasRoomIn other → PolicyEngine.rank tier ≤ PolicyEngine.rank other) ∧
      ∀ tier, PolicyEngine.selectTier engine.backendCapacities = some tier →
        engine.Ranking utilization tier (engine.tierBackendCandidates tier) ∧
          (engine.tierBackendCandidates tier).Pairwise engine.ExactlyBefore) ∧
    (FixedTier Backend → ∀ (backends : HashMap UInt8 Backend) (actions : List (CallEnv × Call))
      (session : Session Backend),
      Transition.run Session.step (.start backends) actions = some session →
        session.engine.Recorded) := by
  refine ⟨fun engine => ⟨?_, fun tier => selectTier_eq_some_iff, ?_⟩, ?_⟩
  · rw [exists_selectTier_iff]
    constructor
    · rintro ⟨tier, id, backend, roomy⟩
      exact ⟨id, backend, roomy.found, roomy.room⟩
    · rintro ⟨id, backend, found, room⟩
      exact ⟨_, id, backend, found, rfl, room⟩
  · intro tier selected
    have ranking : engine.Ranking utilization tier (engine.tierBackendCandidates tier) :=
      ranking_candidatesBy (selectTier_eq_some_iff.mp selected).1
    refine ⟨ranking, ranking.ordered.imp_of_mem ?_⟩
    intro left right leftListed rightListed before
    rcases (ranking.exactly left).mp leftListed with ⟨first, leftRoomy⟩
    rcases (ranking.exactly right).mp rightListed with ⟨second, rightRoomy⟩
    exact before.exactly leftRoomy rightRoomy
  · intro fixed backends actions session reached
    exact Session.recorded_of_run reached

/-- A connection to a server, with some of its pages in use. -/
def linkWith (maxPages pagesUsed : UInt64) : TcpLink :=
  TcpLink.setUsed ⟨.connected 0 "server" maxPages 0, .start 0, []⟩ pagesUsed

def twoLinks (first second : TcpLink) : Engine TcpLink :=
  .withBackends (((∅ : HashMap UInt8 TcpLink).insert 1 second).insert 0 first)

/-- The emptier one of two backends comes first. -/
theorem emptier_link_ranked_first :
    PolicyEngine.selectTier (twoLinks (linkWith 8 4) (linkWith 6 2)).backendCapacities =
        some .rdma ∧
      (twoLinks (linkWith 8 4) (linkWith 6 2)).tierBackendCandidates .rdma = [1, 0] ∧
      (twoLinks (linkWith 8 4) (linkWith 6 2)).ExactlyBefore 1 0 := by
  have selected : PolicyEngine.selectTier
      (twoLinks (linkWith 8 4) (linkWith 6 2)).backendCapacities = some .rdma := rfl
  have candidates : (twoLinks (linkWith 8 4) (linkWith 6 2)).tierBackendCandidates .rdma =
      [1, 0] := by decide +kernel
  have ordered := (((tier_and_candidates_agree TcpLink).1 _).2.2 _ selected).2
  rw [candidates, List.pairwise_pair] at ordered
  exact ⟨selected, candidates, ordered⟩

/-- Two backends of 4 TiB with one free page each: as doubles they are as full, and the one with
the smaller identifier comes first although it is fuller. -/
theorem fuller_link_ranked_first :
    PolicyEngine.selectTier
        (twoLinks (linkWith 1073741824 1073741823) (linkWith 1073741823 1073741822)
          ).backendCapacities = some .rdma ∧
      (twoLinks (linkWith 1073741824 1073741823) (linkWith 1073741823 1073741822)
        ).tierBackendCandidates .rdma = [0, 1] ∧
      Engine.LessFull (DuvmBackend.capacity (linkWith 1073741823 1073741822))
        (DuvmBackend.capacity (linkWith 1073741824 1073741823)) := by
  refine ⟨rfl, ?_, ?_⟩
  · decide +kernel
  · unfold Engine.LessFull
    decide

end Duvm.Daemon
