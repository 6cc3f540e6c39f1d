import Duvm.Backend.Limits
import Duvm.Daemon.Tiers
import Duvm.Library.LeastLoaded

/-!
# Fair distribution

Pages are stored under new offsets in backends of one tier, each of which takes every page
it is given, until all are full. Every page then goes to the backend which is least full,
and the backends stay balanced.

How full a backend is may be measured in any way which compares the backends as the exact
quotients do. The doubles of the code do, unless the backends are huge.
-/

namespace Duvm

universe u

/-- A backend whose capacity counts the pages it takes. -/
class MeteredBackend (Backend : Type u) extends DuvmBackend Backend where
  /-- What the count relies on. -/
  Metered : Backend → Prop
  placed : ∀ {backend issued after : Backend} {handle : PageHandle} {data : PageBuffer},
    Metered backend → (capacity backend).2 < (capacity backend).1 →
    allocPage backend = (.ok handle, issued) → storePage issued handle data = (.ok (), after) →
    Metered after ∧ (capacity after).1 = (capacity backend).1 ∧
      (capacity after).2.toNat = (capacity backend).2.toNat + 1 ∧
      tier after = tier backend ∧ isHealthy after = true

/-- The slot is counted when it is allocated, and the connection is open after a reply. -/
instance : MeteredBackend TcpLink where
  Metered _ := True
  placed := by
    intro link issued after handle data _ _ allocated stored
    have counted := TcpLink.pagesUsed_of_allocated allocated
    have total := TcpLink.maxPages_allocPage link
    have sameUsed := TcpLink.pagesUsed_withStream issued (.store handle data)
      (Tcp.storeReply · handle data)
    have sameTotal := TcpLink.maxPages_withStream issued (.store handle data)
      (Tcp.storeReply · handle data)
    have isOpen := (TcpLink.withStream_spec issued (.store handle data)
      (Tcp.storeReply · handle data)).2.2 ()
    change issued.withStream (.store handle data) (Tcp.storeReply · handle data) = _ at stored
    change link.allocPage = _ at allocated
    rw [stored] at sameUsed sameTotal isOpen
    rw [allocated] at total
    rcases isOpen rfl with ⟨opened, stream⟩
    refine ⟨trivial, sameTotal.trans total, ?_, rfl, ?_⟩
    · change after.backend.pagesUsed.toNat = link.backend.pagesUsed.toNat + 1
      rw [sameUsed, counted]
    · change after.backend.conn.stream.isSome = true
      rw [stream]
      rfl

theorem RdmaBackend.placed {backend issued after : RdmaBackend} {handle : PageHandle}
    {data : PageBuffer} (room : backend.pagesUsed < backend.maxPages)
    (allocated : backend.allocPage = (.ok handle, issued))
    (stored : issued.storePage handle data = (.ok (), after)) :
    (DuvmBackend.capacity after).1 = (DuvmBackend.capacity backend).1 ∧
      (DuvmBackend.capacity after).2.toNat = (DuvmBackend.capacity backend).2.toNat + 1 ∧
      DuvmBackend.tier after = DuvmBackend.tier backend ∧
      DuvmBackend.isHealthy after = true := by
  unfold RdmaBackend.allocPage at allocated
  unfold RdmaBackend.storePage at stored
  rw [if_neg (UInt64.not_le.mpr room)] at allocated
  split at allocated
  · cases allocated
    split at stored
    · cases stored
    · cases stored
      refine ⟨rfl, ?_, rfl, rfl⟩
      have less := UInt64.lt_iff_toNat_lt.mp room
      have bound := backend.maxPages.toNat_lt
      change (backend.pagesUsed + 1).toNat = backend.pagesUsed.toNat + 1
      rw [UInt64.toNat_add]
      change (backend.pagesUsed.toNat + 1) % 2 ^ 64 = backend.pagesUsed.toNat + 1
      omega
  · cases allocated

instance : MeteredBackend RdmaBackend where
  Metered _ := True
  placed _ room allocated stored := ⟨trivial, RdmaBackend.placed room allocated stored⟩

namespace LocalBackend

variable {codec : Lz4}

/-- No more pages than allowed, all under offsets which have been issued. -/
structure Metered (backend : LocalBackend codec) : Prop where
  within : backend.occupied.length ≤ backend.maxPages.toNat
  issued : ∀ slot ∈ backend.occupied, slot.toNat < backend.nextOffset.toNat

variable {backend : LocalBackend codec}

theorem Metered.toNat_used (metered : backend.Metered) :
    (DuvmBackend.capacity backend).2.toNat = backend.occupied.length := by
  have bound := backend.maxPages.toNat_lt
  have within := metered.within
  rw [capacity_eq, UInt64.toNat_ofNat']
  omega

theorem Metered.placed {issued after : LocalBackend codec} {handle : PageHandle}
    {data : PageBuffer} (metered : backend.Metered)
    (room : (DuvmBackend.capacity backend).2 < (DuvmBackend.capacity backend).1)
    (allocated : DuvmBackend.allocPage backend = (.ok handle, issued))
    (stored : DuvmBackend.storePage issued handle data = (.ok (), after)) :
    after.Metered ∧ after.occupied.length = backend.occupied.length + 1 ∧
      after.maxPages = backend.maxPages := by
  have isHandle := congrArg Prod.fst allocated
  rcases offset_of_allocated isHandle with ⟨slot, _, advanced⟩
  have sameOccupied := occupied_allocPage backend
  have sameTotal := maxPages_allocPage backend
  have occupied := occupied_storePage issued handle data
  have total := maxPages_storePage issued handle data
  have next := nextOffset_storePage issued handle data
  rw [allocated] at advanced sameOccupied sameTotal
  rw [stored] at occupied total next
  have isFree : handle.offset ∉ issued.occupied := by
    intro taken
    rw [sameOccupied] at taken
    have below := metered.issued _ taken
    rw [slot] at below
    exact Nat.lt_irrefl _ below
  rw [List.erase_of_not_mem isFree, sameOccupied] at occupied
  have length : after.occupied.length = backend.occupied.length + 1 := by
    rw [occupied, List.length_cons]
  rw [UInt64.lt_iff_toNat_lt, metered.toNat_used, fst_capacity] at room
  refine ⟨⟨?_, ?_⟩, length, total.trans sameTotal⟩
  · rw [length, total, sameTotal]
    exact room
  · intro other listed
    rw [next, advanced]
    rw [occupied, List.mem_cons] at listed
    rcases listed with rfl | earlier
    · rw [slot]
      exact Nat.lt_succ_self _
    · exact Nat.lt_succ_of_lt (metered.issued other earlier)

theorem Fresh.metered (fresh : backend.Fresh) : backend.Metered := by
  refine ⟨?_, ?_⟩
  · rw [fresh.occupied_eq_nil]
    exact Nat.zero_le _
  · intro slot listed
    rw [fresh.occupied_eq_nil] at listed
    cases listed

end LocalBackend

instance {codec : Lz4} : MeteredBackend (LocalBackend codec) where
  Metered := LocalBackend.Metered
  placed := by
    intro backend issued after handle data metered room allocated stored
    rcases metered.placed room allocated stored with ⟨stillMetered, length, total⟩
    refine ⟨stillMetered, ?_, ?_, ?_, ?_⟩
    · rw [LocalBackend.fst_capacity, LocalBackend.fst_capacity, total]
    · rw [stillMetered.toNat_used, metered.toNat_used, length]
    · have first := FixedTier.allocPage backend
      have second := FixedTier.storePage issued handle data
      rw [allocated] at first
      rw [stored] at second
      exact second.trans first
    · cases after <;> rfl

end Duvm

namespace Duvm.Daemon

open Function (update)

universe u

namespace Engine

section Code

variable {Backend : Type u} [DuvmBackend Backend]

/-- `store_page`, whichever way it measures how full a backend is. -/
def storePageBy (measure : UInt64 × UInt64 → ℚ) (env : CallEnv) (engine : Engine Backend)
    (offset : UInt64) (data : PageBuffer) : Outcome PageHandle × Engine Backend :=
  match (engine.releaseOld offset).chooseTier env with
  | (.error error, engine) => (.err error, engine)
  | (.ok tier, engine) =>
      storeOn env offset data tier (engine.candidatesBy measure tier) none engine

theorem storePageBy_utilization (env : CallEnv) (engine : Engine Backend) (offset : UInt64)
    (data : PageBuffer) :
    storePageBy utilization env engine offset data = engine.storePage env offset data := rfl

/-- A store under a new offset for which a backend has room, and the first candidate takes the
page. -/
def fill (measure : UInt64 × UInt64 → ℚ) (engine : Engine Backend) :
    CallEnv × UInt64 × PageBuffer → Option (Engine Backend)
  | (env, offset, data) =>
      match PolicyEngine.selectTier engine.backendCapacities with
      | none => none
      | some tier =>
          if (engine.policy.lookup offset).isNone ∧
              (storeOn env offset data tier ((engine.candidatesBy measure tier).take 1) none
                engine).1.isOk then
            some (storePageBy measure env engine offset data).2
          else none

/-- The total and the used pages of a healthy backend, nothing for any other. -/
def healthyCapacity (engine : Engine Backend) (id : UInt8) : UInt64 × UInt64 :=
  match engine.backends.lookup id with
  | none => (0, 0)
  | some backend => if DuvmBackend.isHealthy backend then DuvmBackend.capacity backend else (0, 0)

def totalOf (engine : Engine Backend) (id : UInt8) : ℕ := (engine.healthyCapacity id).1.toNat

def usedOf (engine : Engine Backend) (id : UInt8) : ℕ := (engine.healthyCapacity id).2.toNat

def Healthy (engine : Engine Backend) (id : UInt8) : Prop :=
  ∃ backend, engine.backends.lookup id = some backend ∧ DuvmBackend.isHealthy backend = true

/-- The page went to the backend with the identifier, which was not full and among those the
least full one, with the smallest identifier among the least full ones. -/
structure PlacedLeast (engine next : Engine Backend) (offset : UInt64) (id : UInt8) : Prop where
  least : LeastLoaded.Least engine.totalOf engine.usedOf id
  first : ∀ other, engine.usedOf other < engine.totalOf other →
    engine.usedOf id * engine.totalOf other = engine.usedOf other * engine.totalOf id → id ≤ other
  recorded : (next.policy.lookup offset).map PageMeta.backendId = some id
  used : next.usedOf = update engine.usedOf id (engine.usedOf id + 1)
  total : next.totalOf = engine.totalOf

variable {measure : UInt64 × UInt64 → ℚ} {engine next : Engine Backend} {env : CallEnv}
  {offset : UInt64} {data : PageBuffer}

/-- What a store does which meets no failure: the first candidate takes the page. -/
inductive Filled (measure : UInt64 × UInt64 → ℚ) (engine : Engine Backend) :
    CallEnv × UInt64 × PageBuffer → Engine Backend → Prop
  | placed {env : CallEnv} {offset : UInt64} {data : PageBuffer} {next : Engine Backend}
      (tier : Tier) (id : UInt8) (rest : List UInt8) (backend issued after : Backend)
      (handle : PageHandle)
      (selected : PolicyEngine.selectTier engine.backendCapacities = some tier)
      (candidates : engine.candidatesBy measure tier = id :: rest)
      (found : engine.backends.lookup id = some backend)
      (allocated : DuvmBackend.allocPage backend = (.ok handle, issued))
      (stored : DuvmBackend.storePage issued handle data = (.ok (), after))
      (result : storePageBy measure env engine offset data = (.ok handle, next))
      (isNext : next =
        { engine.setBackend id after with
          policy := engine.policy.recordStore env offset handle id tier
          stats := engine.stats.stored }) :
      Filled measure engine (env, offset, data) next

theorem filled_of_fill (stepped : fill measure engine (env, offset, data) = some next) :
    Filled measure engine (env, offset, data) next := by
  simp only [fill] at stepped
  cases selected : PolicyEngine.selectTier engine.backendCapacities with
  | none =>
      rw [selected] at stepped
      cases stepped
  | some tier =>
      rw [selected] at stepped
      simp only [Option.ite_none_right_eq_some, Option.some.injEq] at stepped
      rcases stepped with ⟨⟨isNone, taken⟩, rfl⟩
      have untracked := Option.isNone_iff_eq_none.mp isNone
      have chosen : storePageBy measure env engine offset data =
          storeOn env offset data tier (engine.candidatesBy measure tier) none engine := by
        rw [storePageBy, releaseOld_of_untracked untracked, chooseTier, selected]
      rcases ranked : engine.candidatesBy measure tier with _ | ⟨id, rest⟩
      · rw [ranked] at taken
        cases taken
      · rw [ranked, List.take_succ_cons, List.take_zero] at taken
        rw [ranked] at chosen
        have round := tried env offset data tier id [] none engine
        generalize storeOn env offset data tier [id] none engine = result at taken round
        cases round with
        | absent unknown => cases taken
        | panicked backend after found panics => cases taken
        | denied backend after error found refused => cases taken
        | returned backend issued failed handle error found allocated refused => cases taken
        | placed backend issued after handle found allocated stored =>
            have placed : storePageBy measure env engine offset data = (.ok handle,
                { engine.setBackend id after with
                  policy := engine.policy.recordStore env offset handle id tier
                  stats := engine.stats.stored }) := by
              rw [chosen]
              simp only [storeOn, found, allocated, stored]
              rfl
            rw [placed]
            exact .placed tier id rest backend issued after handle selected ranked found allocated
              stored placed rfl

variable {backend : Backend} {id : UInt8}

theorem isHealthy_of_hasRoom (room : hasRoom backend = true) :
    DuvmBackend.isHealthy backend = true := by
  simp only [hasRoom, Bool.and_eq_true] at room
  exact room.1

theorem healthyCapacity_of_healthy (found : engine.backends.lookup id = some backend)
    (isHealthy : DuvmBackend.isHealthy backend = true) :
    engine.healthyCapacity id = DuvmBackend.capacity backend := by
  rw [healthyCapacity, found]
  exact if_pos isHealthy

theorem healthyCapacity_of_roomyAt {tier : Tier} (roomy : engine.RoomyAt tier id backend) :
    engine.healthyCapacity id = DuvmBackend.capacity backend :=
  healthyCapacity_of_healthy roomy.found (isHealthy_of_hasRoom roomy.room)

theorem room_of_roomyAt {tier : Tier} (roomy : engine.RoomyAt tier id backend) :
    engine.usedOf id < engine.totalOf id := by
  rw [usedOf, totalOf, healthyCapacity_of_roomyAt roomy, ← UInt64.lt_iff_toNat_lt]
  exact lt_capacity_of_hasRoom roomy.room

/-- Only the capacity of the backend which has changed is another one. -/
theorem healthyCapacity_replaced {after : Backend}
    (found : engine.backends.lookup id = some backend)
    (isHealthy : DuvmBackend.isHealthy after = true)
    (replaced : next.backends = engine.backends.replace id after) :
    next.healthyCapacity = update engine.healthyCapacity id (DuvmBackend.capacity after) := by
  have lookup := fun other =>
    HashMap.lookup_replace_eq_ite (HashMap.mem_of_lookup_eq_some found) other after
  funext other
  rw [healthyCapacity, replaced, lookup]
  by_cases same : other = id
  · rw [if_pos same, same, Function.update_self]
    exact if_pos isHealthy
  · rw [if_neg same, Function.update_of_ne same]
    rfl

/-- A backend with room takes one page more. -/
theorem usage_of_replaced {tier : Tier} {after : Backend} (roomy : engine.RoomyAt tier id backend)
    (isHealthy : DuvmBackend.isHealthy after = true)
    (replaced : next.backends = engine.backends.replace id after)
    (sameTotal : (DuvmBackend.capacity after).1 = (DuvmBackend.capacity backend).1)
    (counted : (DuvmBackend.capacity after).2.toNat = (DuvmBackend.capacity backend).2.toNat + 1) :
    (∀ other, (next.healthyCapacity other).1 = (engine.healthyCapacity other).1) ∧
      next.usedOf = update engine.usedOf id (engine.usedOf id + 1) := by
  have capacities := healthyCapacity_replaced roomy.found isHealthy replaced
  have capacity := healthyCapacity_of_roomyAt roomy
  constructor
  · intro other
    rw [capacities, Function.update_apply]
    split
    · next same => rw [same, capacity, sameTotal]
    · rfl
  · funext other
    rw [usedOf, capacities, Function.update_apply, Function.update_apply]
    split
    · rw [counted, usedOf, capacity]
    · rfl

theorem exists_roomyAt (room : engine.usedOf id < engine.totalOf id) :
    ∃ backend, engine.RoomyAt (DuvmBackend.tier backend) id backend := by
  rw [usedOf, totalOf, ← UInt64.lt_iff_toNat_lt, healthyCapacity] at room
  cases found : engine.backends.lookup id with
  | none =>
      rw [found] at room
      exact absurd room (UInt64.lt_irrefl _)
  | some backend =>
      rw [found] at room
      by_cases isHealthy : DuvmBackend.isHealthy backend = true
      · simp only [isHealthy, if_true] at room
        exact ⟨backend, found, rfl, by simp [hasRoom, isHealthy, room]⟩
      · simp only [isHealthy] at room
        exact absurd room (UInt64.lt_irrefl _)

end Code

/-- The measure compares backends with these totals as the exact quotients do. -/
def Compares (measure : UInt64 × UInt64 → ℚ) (totals : UInt8 → UInt64) : Prop :=
  ∀ left right usedLeft usedRight, usedLeft < totals left → usedRight < totals right →
    (measure (totals left, usedLeft) < measure (totals right, usedRight) ↔
      LessFull (totals left, usedLeft) (totals right, usedRight))

/-- The exact quotient. -/
def quotient (capacity : UInt64 × UInt64) : ℚ := capacity.2.toNat / capacity.1.toNat

theorem compares_quotient (totals : UInt8 → UInt64) : Compares quotient totals := by
  intro left right usedLeft usedRight leftRoom rightRoom
  have leftTotal : (0 : ℚ) < (totals left).toNat :=
    Nat.cast_pos.mpr (Nat.zero_lt_of_lt (UInt64.lt_iff_toNat_lt.mp leftRoom))
  have rightTotal : (0 : ℚ) < (totals right).toNat :=
    Nat.cast_pos.mpr (Nat.zero_lt_of_lt (UInt64.lt_iff_toNat_lt.mp rightRoom))
  rw [quotient, quotient, LessFull, div_lt_div_iff₀ leftTotal rightTotal, ← Nat.cast_mul,
    ← Nat.cast_mul, Nat.cast_lt]

/-- The doubles of the code do so for backends of ordinary size. -/
theorem compares_utilization {totals : UInt8 → UInt64}
    (small : ∀ left right, (totals left).toNat * (totals right).toNat < 2 ^ 53) :
    Compares utilization totals :=
  fun left right _ _ leftRoom rightRoom => utilization_lt_iff leftRoom rightRoom (small left right)

variable {Backend : Type u} [MeteredBackend Backend] {measure : UInt64 × UInt64 → ℚ}
  {engine next : Engine Backend} {tier : Tier} {totals : UInt8 → UInt64} {env : CallEnv}
  {offset : UInt64} {data : PageBuffer}

/-- A backend of the tier which may take pages and counts them. -/
structure Usable (tier : Tier) (backend : Backend) : Prop where
  inTier : DuvmBackend.tier backend = tier
  metered : MeteredBackend.Metered backend
  positive : 0 < (DuvmBackend.capacity backend).1

/-- The healthy backends are of one tier, of the given sizes, and balanced. -/
structure Level (tier : Tier) (totals : UInt8 → UInt64) (engine : Engine Backend) : Prop where
  usable : ∀ {id backend}, engine.backends.lookup id = some backend →
    DuvmBackend.isHealthy backend = true → Usable tier backend
  total : ∀ id, (engine.healthyCapacity id).1 = totals id
  within : ∀ id, engine.usedOf id ≤ engine.totalOf id
  balanced : LeastLoaded.Balanced engine.totalOf engine.usedOf

theorem Level.totalOf_pos (level : engine.Level tier totals) {id : UInt8}
    (healthy : engine.Healthy id) : 0 < engine.totalOf id := by
  rcases healthy with ⟨backend, found, isHealthy⟩
  rw [totalOf, healthyCapacity_of_healthy found isHealthy]
  exact UInt64.lt_iff_toNat_lt.mp (level.usable found isHealthy).positive

/-- A backend with room is of the one tier. -/
theorem Level.roomyAt (level : engine.Level tier totals) {id : UInt8}
    (room : engine.usedOf id < engine.totalOf id) :
    ∃ backend, engine.RoomyAt tier id backend := by
  rcases exists_roomyAt room with ⟨backend, found, _, hasRoom⟩
  exact ⟨backend, found, (level.usable found (isHealthy_of_hasRoom hasRoom)).inTier, hasRoom⟩

theorem Level.selected_eq (level : engine.Level tier totals) {chosen : Tier}
    (selected : PolicyEngine.selectTier engine.backendCapacities = some chosen) :
    chosen = tier := by
  rcases (selectTier_eq_some_iff.mp selected).1 with ⟨id, backend, found, inTier, room⟩
  exact inTier.symm.trans (level.usable found (isHealthy_of_hasRoom room)).inTier

/-- Which of two backends with room comes first, by the exact quotients. -/
theorem Level.compare (level : engine.Level tier totals) (compares : Compares measure totals)
    {left right : UInt8} (leftRoom : engine.usedOf left < engine.totalOf left)
    (rightRoom : engine.usedOf right < engine.totalOf right) :
    measure (engine.healthyCapacity left) < measure (engine.healthyCapacity right) ↔
      engine.usedOf left * engine.totalOf right < engine.usedOf right * engine.totalOf left := by
  have exactly := compares left right (engine.healthyCapacity left).2
    (engine.healthyCapacity right).2
  rw [← level.total left, ← level.total right] at exactly
  exact exactly (UInt64.lt_iff_toNat_lt.mpr leftRoom) (UInt64.lt_iff_toNat_lt.mpr rightRoom)

/-- The first candidate is the least full one, with the smallest identifier. -/
theorem Level.first_candidate (level : engine.Level tier totals)
    (compares : Compares measure totals) {id : UInt8} {rest : List UInt8}
    (roomyIn : engine.HasRoomIn tier) (candidates : engine.candidatesBy measure tier = id :: rest) :
    LeastLoaded.Least engine.totalOf engine.usedOf id ∧
      ∀ other, engine.usedOf other < engine.totalOf other →
        engine.usedOf id * engine.totalOf other = engine.usedOf other * engine.totalOf id →
          id ≤ other := by
  have ranking : engine.Ranking measure tier (engine.candidatesBy measure tier) :=
    ranking_candidatesBy roomyIn
  rw [candidates] at ranking
  rcases (ranking.exactly id).mp List.mem_cons_self with ⟨backend, roomy⟩
  have room := room_of_roomyAt roomy
  have before : ∀ other, engine.usedOf other < engine.totalOf other → other ≠ id →
      measure (engine.healthyCapacity id) < measure (engine.healthyCapacity other) ∨
        measure (engine.healthyCapacity id) = measure (engine.healthyCapacity other) ∧
          id < other := by
    intro other otherRoom different
    rcases level.roomyAt otherRoom with ⟨second, otherRoomy⟩
    have listed := (ranking.exactly other).mpr ⟨second, otherRoomy⟩
    have later := (List.mem_cons.mp listed).resolve_left different
    rcases (List.pairwise_cons.mp ranking.ordered).1 other later with
      ⟨first, _, firstFound, secondFound, ordered⟩
    cases firstFound.symm.trans roomy.found
    cases secondFound.symm.trans otherRoomy.found
    rwa [healthyCapacity_of_roomyAt roomy, healthyCapacity_of_roomyAt otherRoomy]
  refine ⟨⟨room, ?_⟩, ?_⟩
  · intro other otherRoom
    by_cases same : other = id
    · rw [same]
    · rcases before other otherRoom same with less | ⟨equal, _⟩
      · exact ((level.compare compares room otherRoom).mp less).le
      · exact Nat.not_lt.mp (mt (level.compare compares otherRoom room).mpr equal.not_gt)
  · intro other otherRoom asFull
    by_cases same : other = id
    · rw [same]
      exact UInt8.le_refl _
    · rcases before other otherRoom same with less | ⟨_, smaller⟩
      · exact absurd asFull ((level.compare compares room otherRoom).mp less).ne
      · exact UInt8.le_of_lt smaller

/-- A store which meets no failure puts the page where it should go and keeps the balance. -/
theorem Level.fill (level : engine.Level tier totals) (compares : Compares measure totals)
    {action : CallEnv × UInt64 × PageBuffer} (filled : Filled measure engine action next) :
    (∃ id, engine.PlacedLeast next action.2.1 id) ∧ next.Level tier totals := by
  cases filled with
  | @placed env offset data _ chosen id rest backend issued after handle selected candidates found
      allocated stored result isNext =>
    cases level.selected_eq selected
    have roomyIn := (selectTier_eq_some_iff.mp selected).1
    rcases level.first_candidate compares roomyIn candidates with ⟨least, first⟩
    rcases level.roomyAt least.room with ⟨_, roomy⟩
    cases found.symm.trans roomy.found
    have usable := level.usable found (isHealthy_of_hasRoom roomy.room)
    rcases MeteredBackend.placed usable.metered (lt_capacity_of_hasRoom roomy.room) allocated
      stored with
      ⟨metered, sameTotal, counted, sameTier, isHealthy⟩
    have replaced : next.backends = engine.backends.replace id after := by rw [isNext]; rfl
    rcases usage_of_replaced roomy isHealthy replaced sameTotal counted with ⟨total, usedOf⟩
    have totalOf : next.totalOf = engine.totalOf :=
      funext fun other => congrArg UInt64.toNat (total other)
    refine ⟨⟨id, least, first, ?_, usedOf, totalOf⟩, ?_, ?_, ?_, ?_⟩
    · rw [isNext]
      simp only
      rw [lookup_recordStore, if_pos rfl]
      rfl
    · intro other second isFound healthy
      rw [replaced] at isFound
      rcases HashMap.new_or_old found isFound with ⟨_, rfl⟩ | ⟨_, wasFound⟩
      · exact ⟨sameTier.trans usable.inTier, metered, sameTotal ▸ usable.positive⟩
      · exact level.usable wasFound healthy
    · intro other
      rw [total other, level.total other]
    · intro other
      rw [usedOf, totalOf, Function.update_apply]
      split
      · next same =>
          rw [same]
          exact least.room
      · exact level.within other
    · rw [usedOf, totalOf]
      exact level.balanced.fill level.within least

structure Unused (tier : Tier) (backend : Backend) : Prop extends Usable tier backend where
  empty : (DuvmBackend.capacity backend).2 = 0

/-- The sizes of the healthy ones among the backends. -/
def sizes (backends : HashMap UInt8 Backend) (id : UInt8) : UInt64 :=
  ((withBackends backends).healthyCapacity id).1

theorem level_start {backends : HashMap UInt8 Backend}
    (unused : ∀ id backend, backends.lookup id = some backend →
      DuvmBackend.isHealthy backend = true → Unused tier backend) :
    (withBackends backends).Level tier (sizes backends) := by
  have empty : ∀ id, (withBackends backends).usedOf id = 0 := by
    intro id
    rw [usedOf, healthyCapacity, withBackends]
    cases found : backends.lookup id with
    | none => rfl
    | some backend =>
        simp only
        split
        · next isHealthy =>
            rw [(unused id backend found isHealthy).empty]
            rfl
        · rfl
  refine ⟨?_, fun _ => rfl, ?_, LeastLoaded.balanced_of_empty empty⟩
  · intro id backend found isHealthy
    exact (unused id backend found isHealthy).toUsable
  · intro id
    rw [empty id]
    exact Nat.zero_le _

theorem level_of_run {backends : HashMap UInt8 Backend}
    {actions : List (CallEnv × UInt64 × PageBuffer)} (compares : Compares measure (sizes backends))
    (unused : ∀ id backend, backends.lookup id = some backend →
      DuvmBackend.isHealthy backend = true → Unused tier backend)
    (reached : Transition.run (fill measure) (withBackends backends) actions = some engine) :
    engine.Level tier (sizes backends) :=
  Transition.run_invariant (level_start unused)
    (fun _ _ _ level stepped => (level.fill compares (filled_of_fill stepped)).2) reached

end Engine

open Engine in
/-- Stores which meet no failure fill the least full backend first, and the backends stay
balanced: without its last page no backend is fuller than another. -/
theorem stores_stay_balanced {Backend : Type u} [MeteredBackend Backend]
    {measure : UInt64 × UInt64 → ℚ} {backends : HashMap UInt8 Backend} {tier : Tier}
    {actions : List (CallEnv × UInt64 × PageBuffer)} {engine : Engine Backend}
    (unused : ∀ id backend, backends.lookup id = some backend →
      DuvmBackend.isHealthy backend = true → Unused tier backend)
    (compares : Compares measure (sizes backends))
    (reached : Transition.run (fill measure) (withBackends backends) actions = some engine) :
    (∀ env offset data next, fill measure engine (env, offset, data) = some next →
      (∃ handle, storePageBy measure env engine offset data = (.ok handle, next)) ∧
        ∃ id, engine.PlacedLeast next offset id) ∧
    (∀ first second, engine.Healthy first → engine.Healthy second → 0 < engine.usedOf first →
      ((engine.usedOf first : ℚ) - 1) / engine.totalOf first ≤
        engine.usedOf second / engine.totalOf second) ∧
    ∀ first second, engine.Healthy first → engine.Healthy second →
      engine.totalOf first = engine.totalOf second →
        engine.usedOf first ≤ engine.usedOf second + 1 := by
  have level := level_of_run compares unused reached
  refine ⟨?_, ?_, ?_⟩
  · intro env offset data next stepped
    have filled := filled_of_fill stepped
    refine ⟨?_, (level.fill compares filled).1⟩
    cases filled with
    | placed _ _ _ _ _ _ handle _ _ _ _ _ result _ => exact ⟨handle, result⟩
  · intro first second firstHealthy secondHealthy some
    exact level.balanced.div_le_div (level.totalOf_pos firstHealthy)
      (level.totalOf_pos secondHealthy) some
  · intro first second firstHealthy _ sameTotal
    exact level.balanced.le_succ sameTotal (level.totalOf_pos firstHealthy)

/-- Memory backends for two and for four pages. -/
def smallAndLarge : HashMap UInt8 (LocalBackend .literalLz4) :=
  ((∅ : HashMap UInt8 (LocalBackend .literalLz4)).insert 1 (.memory (.new 1 4))).insert 0
    (.memory (.new 0 2))

theorem unused_smallAndLarge (id : UInt8) (backend : LocalBackend .literalLz4)
    (found : smallAndLarge.lookup id = some backend) : Engine.Unused .compressed backend := by
  simp only [smallAndLarge, HashMap.lookup_insert_eq_ite, AList.lookup_empty] at found
  split at found
  · cases found
    exact ⟨⟨rfl, LocalBackend.Fresh.metered ⟨0, 2, rfl⟩, by decide⟩, rfl⟩
  · split at found
    · cases found
      exact ⟨⟨rfl, LocalBackend.Fresh.metered ⟨1, 4, rfl⟩, by decide⟩, rfl⟩
    · cases found

def threePages : List (CallEnv × UInt64 × PageBuffer) :=
  [1, 2, 3].map fun offset => (⟨0, .listed TrackedPage⟩, offset, .zero)

theorem sizes_smallAndLarge (id : UInt8) : (Engine.sizes smallAndLarge id).toNat ≤ 4 := by
  by_cases isSmall : id = 0
  · rw [isSmall]
    decide
  · by_cases isLarge : id = 1
    · rw [isLarge]
      decide
    · have absent : smallAndLarge.lookup id = none := by
        simp only [smallAndLarge, HashMap.lookup_insert_eq_ite, AList.lookup_empty, if_neg isSmall,
          if_neg isLarge]
      rw [Engine.sizes, Engine.healthyCapacity, Engine.withBackends, absent]
      decide

open Engine in
/-- Of three pages one goes to the backend for two and two to the backend for four. -/
theorem three_pages_balanced :
    ∃ engine, Transition.run (fill utilization) (withBackends smallAndLarge) threePages =
        some engine ∧
      (engine.usedOf 0, engine.usedOf 1) = (1, 2) ∧
      ((engine.usedOf 1 : ℚ) - 1) / engine.totalOf 1 ≤ engine.usedOf 0 / engine.totalOf 0 := by
  have ran : (Transition.run (fill utilization) (withBackends smallAndLarge) threePages).map
      (fun engine => ((engine.usedOf 0, engine.usedOf 1),
        (engine.backends.lookup 0).map DuvmBackend.isHealthy,
        (engine.backends.lookup 1).map DuvmBackend.isHealthy)) =
      some ((1, 2), some true, some true) := by decide +kernel
  rcases Option.map_eq_some_iff.mp ran with ⟨engine, reached, shape⟩
  simp only [Prod.mk.injEq] at shape
  have healthy : ∀ id, (engine.backends.lookup id).map DuvmBackend.isHealthy = some true →
      engine.Healthy id := fun id isHealthy => Option.map_eq_some_iff.mp isHealthy
  have small : ∀ left right, (sizes smallAndLarge left).toNat *
      (sizes smallAndLarge right).toNat < 2 ^ 53 := by
    intro left right
    have product := Nat.mul_le_mul (sizes_smallAndLarge left) (sizes_smallAndLarge right)
    omega
  have balanced := (stores_stay_balanced
    (fun id backend found _ => unused_smallAndLarge id backend found)
    (compares_utilization small) reached).2.1 1 0 (healthy 1 shape.2.2) (healthy 0 shape.2.1)
  refine ⟨engine, reached, Prod.ext shape.1.1 shape.1.2, balanced ?_⟩
  rw [shape.1.2]
  decide

end Duvm.Daemon
