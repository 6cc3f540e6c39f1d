import Duvm.Memserver.Capacity
import Duvm.Memserver.Clients

/-!
# What the memory server promises to its clients

Clients which use only the offsets they hold cannot get into each other's way,
as long as the counter of the offsets has not come round: every page in the
store belongs to the client which holds its offset. There are then no more
pages than reservations, so a store never finds the pool full.
-/

namespace Duvm.Memserver

open Function (update)

universe u

variable {Client : Type u}

/-- The offsets handed out, oldest first. -/
def grants (log : List (ClientEvent Client)) : List UInt64 :=
  log.filterMap fun event =>
    match event with
    | .granted _ offset => some offset
    | _ => none

theorem grants_concat (log : List (ClientEvent Client)) (event : ClientEvent Client) :
    grants (log ++ [event]) = grants log ++ grants [event] :=
  List.filterMap_append

def ClientEvent.data : ClientEvent Client → Option PageBuffer
  | .stored _ _ data _ => some data
  | _ => none

variable [DecidableEq Client]

def ClientEvent.stores (client : Client) (offset : UInt64) : ClientEvent Client → Bool
  | .stored writer target _ _ => writer = client && target = offset
  | _ => false

/-- The page of the last store by the client to the offset. -/
def lastStored (log : List (ClientEvent Client)) (client : Client) (offset : UInt64) :
    Option PageBuffer :=
  (Log.last? (ClientEvent.stores client offset) log).bind ClientEvent.data

theorem lastStored_concat (log : List (ClientEvent Client)) (event : ClientEvent Client)
    (client : Client) (offset : UInt64) :
    lastStored (log ++ [event]) client offset =
      if event.stores client offset then event.data else lastStored log client offset := by
  rw [lastStored, Log.last?_concat]
  split
  · rfl
  · rfl

/-- Every load returned the page which its client had stored last. -/
def LoadsOwn (log : List (ClientEvent Client)) : Prop :=
  Log.Each (fun before event => ∀ client offset data,
    event = .loaded client offset data → data = lastStored before client offset) log

/-- Every store was accepted. -/
def StoresAccepted (log : List (ClientEvent Client)) : Prop :=
  ∀ client offset data accepted, .stored client offset data accepted ∈ log → accepted = true

namespace Pool

/-- Clients name only the offsets which they hold. -/
def UsesHeld (pool : Pool Client) (action : Client × ClientAction) : Prop :=
  ∀ offset, action.2.offset? = some offset → (action.1, offset) ∈ pool.held

omit [DecidableEq Client] in
theorem UsesHeld.freesHeld {pool : Pool Client} {action : Client × ClientAction}
    (uses : pool.UsesHeld action) : pool.FreesHeld action := by
  intro offset frees
  apply uses offset
  rw [frees]
  rfl

instance (pool : Pool Client) (action : Client × ClientAction) :
    Decidable (pool.UsesHeld action) :=
  match named : action.2.offset? with
  | none => isTrue (by simp [UsesHeld, named])
  | some offset =>
      decidable_of_iff ((action.1, offset) ∈ pool.held) (by simp [UsesHeld, named])

end Pool

/-- The offsets handed out are the values which the counter went through, and the clients have
no others. -/
structure Drawn (next : UInt64) (held : List (Client × UInt64))
    (log : List (ClientEvent Client)) : Prop where
  values : grants log = (List.range (grants log).length).map UInt64.ofNat
  next : next = UInt64.ofNat (grants log).length
  held : ∀ client offset, (client, offset) ∈ held → offset ∈ grants log
  stored : ∀ client offset data accepted,
    .stored client offset data accepted ∈ log → offset ∈ grants log

/-- The pages in the store are held by clients, each by one, and are what it stored last. -/
structure Separate (pages : HashMap UInt64 PageBuffer) (held : List (Client × UInt64))
    (log : List (ClientEvent Client)) : Prop where
  distinct : (held.map Prod.snd).Nodup
  stored : ∀ offset ∈ pages, ∃ client, (client, offset) ∈ held
  contents : ∀ client offset, (client, offset) ∈ held →
    pages.lookup offset = lastStored log client offset
  accepted : StoresAccepted log
  loads : LoadsOwn log

section Steps

variable {next : UInt64} {pages : HashMap UInt64 PageBuffer} {held : List (Client × UInt64)}
  {log : List (ClientEvent Client)} {client : Client} {offset : UInt64}

omit [DecidableEq Client] in
theorem mem_grants_concat (event : ClientEvent Client) (granted : offset ∈ grants log) :
    offset ∈ grants (log ++ [event]) := by
  rw [grants_concat]
  exact List.mem_append_left _ granted

omit [DecidableEq Client] in
/-- The counter has not come round, so its values are different. -/
theorem Drawn.distinct (drawn : Drawn next held log) (few : (grants log).length ≤ 2 ^ 64) :
    (grants log).Nodup := by
  rw [drawn.values]
  apply List.Nodup.map_on _ List.nodup_range
  intro left inLeft right inRight same
  have leftBelow := List.mem_range.mp inLeft
  have rightBelow := List.mem_range.mp inRight
  have values := congrArg UInt64.toNat same
  rw [UInt64.toNat_ofNat', UInt64.toNat_ofNat'] at values
  omega

omit [DecidableEq Client] in
/-- An event which hands nothing out, and is no store or one to an offset in use. -/
theorem Drawn.record {event : ClientEvent Client} (drawn : Drawn next held log)
    (nothing : grants [event] = [])
    (known : ∀ client offset data accepted, event = .stored client offset data accepted →
      offset ∈ grants log) : Drawn next held (log ++ [event]) := by
  have same : grants (log ++ [event]) = grants log := by
    rw [grants_concat, nothing, List.append_nil]
  refine ⟨?_, ?_, ?_, ?_⟩
  · rw [same]
    exact drawn.values
  · rw [same]
    exact drawn.next
  · rw [same]
    exact drawn.held
  · intro client offset data accepted listed
    rw [same]
    rcases List.mem_append.mp listed with old | new
    · exact drawn.stored client offset data accepted old
    · exact known client offset data accepted (List.mem_singleton.mp new).symm

omit [DecidableEq Client] in
theorem Drawn.grant (drawn : Drawn next held log) (client : Client) :
    Drawn (next + 1) (held ++ [(client, next)]) (log ++ [.granted client next]) := by
  have grown : grants (log ++ [.granted client next]) = grants log ++ [next] :=
    grants_concat log _
  have longer : (grants (log ++ [.granted client next])).length = (grants log).length + 1 := by
    rw [grown, List.length_append, List.length_singleton]
  refine ⟨?_, ?_, ?_, ?_⟩
  · rw [longer, List.range_succ, List.map_append, ← drawn.values, grown, List.map_singleton,
      ← drawn.next]
  · rw [longer, UInt64.ofNat_add, ← drawn.next]
    rfl
  · intro holder offset isHeld
    rcases List.mem_append.mp isHeld with old | new
    · exact mem_grants_concat _ (drawn.held holder offset old)
    · rw [grown, (Prod.mk.inj (List.mem_singleton.mp new)).2]
      exact List.mem_append_right _ (List.mem_singleton_self next)
  · intro writer offset data accepted listed
    rcases List.mem_append.mp listed with old | new
    · exact mem_grants_concat _ (drawn.stored writer offset data accepted old)
    · simp at new

theorem Drawn.erase (drawn : Drawn next held log) (reservation : Client × UInt64) :
    Drawn next (held.erase reservation) log :=
  { drawn with
    held := fun client offset isHeld =>
      drawn.held client offset (List.mem_of_mem_erase isHeld) }

/-- Nothing has been stored under an offset which is handed out for the first time. -/
theorem Drawn.lastStored_eq_none (drawn : Drawn next held log) (fresh : offset ∉ grants log)
    (client : Client) : lastStored log client offset = none := by
  have unknown : Log.last? (ClientEvent.stores client offset) log = none := by
    rw [Log.last?, List.getLast?_eq_none_iff, List.filter_eq_nil_iff]
    intro event listed stores
    cases event with
    | stored writer target data accepted =>
        simp only [ClientEvent.stores, Bool.and_eq_true, decide_eq_true_eq] at stores
        rw [← stores.2] at fresh
        exact fresh (drawn.stored writer target data accepted listed)
    | granted | full | loaded | freed => simp [ClientEvent.stores] at stores
  rw [lastStored, unknown]
  rfl

/-- An offset is held by one client. -/
theorem Separate.holder_eq (separate : Separate pages held log) {other : Client}
    (holds : (client, offset) ∈ held) (holdsToo : (other, offset) ∈ held) : other = client :=
  congrArg Prod.fst (List.inj_on_of_nodup_map separate.distinct holdsToo holds rfl)

/-- There are no more pages than offsets in use, and one less if an offset has no page yet. -/
theorem Separate.size_le (separate : Separate pages held log) :
    HashMap.size pages ≤ held.length := by
  have within : pages.keys ⊆ held.map Prod.snd := by
    intro offset listed
    rcases separate.stored offset (AList.mem_keys.mpr listed) with ⟨client, holds⟩
    exact List.mem_map.mpr ⟨(client, offset), holds, rfl⟩
  have shorter := (List.subperm_of_subset pages.keys_nodup within).length_le
  rw [List.length_map] at shorter
  exact shorter

theorem Separate.size_lt (separate : Separate pages held log) (holds : (client, offset) ∈ held)
    (absent : offset ∉ pages) : HashMap.size pages < held.length := by
  have within : offset :: pages.keys ⊆ held.map Prod.snd := by
    intro found listed
    rcases List.mem_cons.mp listed with rfl | stored
    · exact List.mem_map.mpr ⟨(client, found), holds, rfl⟩
    · rcases separate.stored found (AList.mem_keys.mpr stored) with ⟨holder, holds⟩
      exact List.mem_map.mpr ⟨(holder, found), holds, rfl⟩
  have distinct : (offset :: pages.keys).Nodup :=
    List.nodup_cons.mpr ⟨fun listed => absent (AList.mem_keys.mpr listed), pages.keys_nodup⟩
  have shorter := (List.subperm_of_subset distinct within).length_le
  rw [List.length_map, List.length_cons] at shorter
  exact shorter

/-- An event which stores nothing. -/
theorem Separate.record {event : ClientEvent Client} (separate : Separate pages held log)
    (notStore : event.data = none)
    (loaded : ∀ client offset data, event = .loaded client offset data →
      data = lastStored log client offset) : Separate pages held (log ++ [event]) := by
  have untouched : ∀ client offset, event.stores client offset = false := by
    intro client offset
    cases event with
    | stored => simp [ClientEvent.data] at notStore
    | granted | full | loaded | freed => rfl
  refine ⟨separate.distinct, separate.stored, ?_, ?_, separate.loads.concat loaded⟩
  · intro client offset holds
    rw [lastStored_concat, untouched]
    exact separate.contents client offset holds
  · intro client offset data accepted listed
    rcases List.mem_append.mp listed with old | new
    · exact separate.accepted client offset data accepted old
    · rw [← List.mem_singleton.mp new] at notStore
      simp [ClientEvent.data] at notStore

theorem Separate.grant (separate : Separate pages held log) (drawn : Drawn next held log)
    (fresh : next ∉ grants log) (client : Client) :
    Separate pages (held ++ [(client, next)]) (log ++ [.granted client next]) := by
  have recorded : Separate pages held (log ++ [.granted client next]) :=
    separate.record rfl nofun
  have absent : next ∉ pages := by
    intro present
    rcases separate.stored next present with ⟨holder, holds⟩
    exact fresh (drawn.held holder next holds)
  refine { recorded with distinct := ?_, stored := ?_, contents := ?_ }
  · rw [List.map_append, List.nodup_append]
    refine ⟨separate.distinct, List.nodup_singleton _, ?_⟩
    intro old isOld new isNew same
    rcases List.mem_map.mp isOld with ⟨⟨holder, offset⟩, holds, rfl⟩
    have isNext : new = next := List.mem_singleton.mp isNew
    have granted := drawn.held holder offset holds
    change offset = new at same
    rw [same, isNext] at granted
    exact fresh granted
  · intro offset present
    rcases separate.stored offset present with ⟨holder, holds⟩
    exact ⟨holder, List.mem_append_left _ holds⟩
  · intro holder offset holds
    rcases List.mem_append.mp holds with old | new
    · exact recorded.contents holder offset old
    · rcases Prod.mk.inj (List.mem_singleton.mp new) with ⟨rfl, rfl⟩
      rw [lastStored_concat, AList.lookup_eq_none.mpr absent]
      exact (drawn.lastStored_eq_none fresh holder).symm

theorem Separate.store {data : PageBuffer} (separate : Separate pages held log)
    (holds : (client, offset) ∈ held) :
    Separate (pages.insert offset data) held (log ++ [.stored client offset data true]) := by
  refine ⟨separate.distinct, ?_, ?_, ?_, separate.loads.concat nofun⟩
  · intro found present
    rcases (AList.mem_insert pages).mp present with rfl | old
    · exact ⟨client, holds⟩
    · exact separate.stored found old
  · intro holder found isHeld
    rw [lastStored_concat, HashMap.lookup_insert_eq_ite]
    by_cases same : found = offset
    · subst same
      rw [separate.holder_eq holds isHeld, if_pos rfl, if_pos (by simp [ClientEvent.stores])]
      rfl
    · rw [if_neg same, if_neg (by simp [ClientEvent.stores, Ne.symm same])]
      exact separate.contents holder found isHeld
  · intro writer target stored accepted listed
    rcases List.mem_append.mp listed with old | new
    · exact separate.accepted writer target stored accepted old
    · simp only [List.mem_singleton, ClientEvent.stored.injEq] at new
      exact new.2.2.2

/-- An offset is given back, and with it its page. -/
theorem Separate.free (separate : Separate pages held log) (holds : (client, offset) ∈ held) :
    Separate (pages.erase offset) (held.erase (client, offset)) log := by
  have others : ∀ holder found, (holder, found) ∈ held.erase (client, offset) →
      (holder, found) ∈ held ∧ found ≠ offset := by
    intro holder found isHeld
    have was := List.mem_of_mem_erase isHeld
    refine ⟨was, ?_⟩
    rintro rfl
    rw [separate.holder_eq holds was] at isHeld
    exact separate.distinct.of_map.not_mem_erase isHeld
  refine { separate with distinct := ?_, stored := ?_, contents := ?_ }
  · exact separate.distinct.sublist (List.erase_sublist.map _)
  · intro found present
    rcases AList.mem_erase.mp present with ⟨different, stored⟩
    rcases separate.stored found stored with ⟨holder, wasHeld⟩
    refine ⟨holder, (List.mem_erase_of_ne ?_).mpr wasHeld⟩
    intro same
    exact different (Prod.mk.inj same).2
  · intro holder found isHeld
    rcases others holder found isHeld with ⟨wasHeld, different⟩
    rw [HashMap.lookup_erase_eq_ite, if_neg different]
    exact separate.contents holder found wasHeld

end Steps

namespace Pool

/-- The invariant behind the promises. -/
structure Kept (pool : Pool Client) : Prop where
  counted : pool.Counted
  drawn : Drawn pool.store.nextOffset pool.held pool.log
  separate : (grants pool.log).length ≤ 2 ^ 64 → Separate pool.store.pages pool.held pool.log

theorem kept_start (maxPages : UInt64) : (start Client maxPages).Kept where
  counted := counted_start maxPages
  drawn := ⟨rfl, rfl, nofun, nofun⟩
  separate _ := ⟨List.nodup_nil, nofun, nofun, nofun, Log.each_nil⟩

variable {client : Client} {pool : Pool Client}

theorem Kept.grant (kept : pool.Kept) (counted : (pool.grant client).Counted) :
    (pool.grant client).Kept := by
  have drawn : Drawn (pool.store.nextOffset + 1)
      (pool.held ++ [(client, pool.store.nextOffset)])
      (pool.log ++ [.granted client pool.store.nextOffset]) := kept.drawn.grant client
  refine ⟨counted, drawn, ?_⟩
  intro few
  have distinct := drawn.distinct few
  have grown : grants (pool.log ++ [.granted client pool.store.nextOffset]) =
      grants pool.log ++ [pool.store.nextOffset] := grants_concat pool.log _
  rw [grown] at distinct
  have fresh : pool.store.nextOffset ∉ grants pool.log := by
    intro old
    exact (List.nodup_append.mp distinct).2.2 _ old _ (List.mem_singleton_self _) rfl
  have fewer : (grants pool.log).length ≤ 2 ^ 64 := by
    have shorter : (grants pool.log).length ≤ (grants pool.log ++ [pool.store.nextOffset]).length :=
      (List.prefix_append _ _).length_le
    rw [← grown] at shorter
    exact shorter.trans few
  exact (kept.separate fewer).grant kept.drawn fresh client

/-- A store to an offset which is held finds room. -/
theorem Kept.store_eq {offset : UInt64} (kept : pool.Kept)
    (few : (grants pool.log).length ≤ 2 ^ 64) (holds : (client, offset) ∈ pool.held)
    (data : PageBuffer) :
    pool.store.store offset data =
      (true, { pool.store with pages := pool.store.pages.insert offset data }) := by
  have limited := UInt64.le_iff_toNat_le.mp kept.counted.limited
  have counts := kept.counted.used
  rw [PageStore.store, if_neg]
  rintro ⟨full, absent⟩
  have room : pool.store.len < pool.held.length := (kept.separate few).size_lt holds absent
  omega

theorem Kept.accept {offset : UInt64} {data : PageBuffer} (kept : pool.Kept)
    (holds : (client, offset) ∈ pool.held) :
    (pool.accept client offset data).Kept := by
  have same : (pool.store.store offset data).2.nextOffset = pool.store.nextOffset := by
    rw [PageStore.store]
    split <;> rfl
  have noGrant : ∀ accepted, grants (pool.log ++ [.stored client offset data accepted]) =
      grants pool.log := by
    intro accepted
    rw [grants_concat]
    exact List.append_nil _
  refine ⟨kept.counted.accept, ?_, ?_⟩
  · change Drawn (pool.store.store offset data).2.nextOffset pool.held (pool.log ++ [_])
    rw [same]
    apply kept.drawn.record rfl
    intro writer target stored accepted isStored
    rw [← (ClientEvent.stored.inj isStored).2.1]
    exact kept.drawn.held client offset holds
  · intro few
    change (grants (pool.log ++ [_])).length ≤ 2 ^ 64 at few
    rw [noGrant] at few
    simp only [Pool.accept, Pool.record, kept.store_eq few holds data]
    exact (kept.separate few).store holds

/-- Every step of clients which use what they hold keeps the invariant. -/
theorem Kept.stepped {next : Pool Client} {action : Client × ClientAction} (kept : pool.Kept)
    (uses : pool.UsesHeld action) (stepped : Stepped pool action next) :
    next.Kept := by
  have counted := kept.counted.stepped uses.freesHeld stepped
  have noGrant : ∀ event : ClientEvent Client, grants [event] = [] →
      grants (pool.log ++ [event]) = grants pool.log := by
    intro event nothing
    rw [grants_concat, nothing, List.append_nil]
  cases stepped with
  | entered left entered => exact ⟨counted, kept.drawn, kept.separate⟩
  | @full client was =>
      refine ⟨counted, kept.drawn.record rfl nofun, ?_⟩
      intro few
      change (grants (pool.log ++ [.full client])).length ≤ 2 ^ 64 at few
      rw [noGrant _ rfl] at few
      exact (kept.separate few).record rfl nofun
  | reserved was => exact ⟨counted, kept.drawn, kept.separate⟩
  | granted was => exact kept.grant counted
  | stored => exact kept.accept (uses _ rfl)
  | @loaded client offset =>
      refine ⟨counted, kept.drawn.record rfl nofun, ?_⟩
      intro few
      change (grants (pool.log ++ [.loaded client offset _])).length ≤ 2 ^ 64 at few
      rw [noGrant _ rfl] at few
      refine (kept.separate few).record rfl ?_
      intro reader target data isLoaded
      rcases ClientEvent.loaded.inj isLoaded with ⟨rfl, rfl, rfl⟩
      exact (kept.separate few).contents client offset (uses offset rfl)
  | @removed client offset was unlocked present =>
      refine ⟨counted, (kept.drawn.erase _).record rfl nofun, ?_⟩
      intro few
      change (grants (pool.log ++ [.freed client offset true])).length ≤ 2 ^ 64 at few
      rw [noGrant _ rfl] at few
      exact ((kept.separate few).free (uses offset rfl)).record rfl nofun
  | @missed client offset absent =>
      refine ⟨counted, (kept.drawn.erase _).record rfl nofun, ?_⟩
      intro few
      change (grants (pool.log ++ [.freed client offset false])).length ≤ 2 ^ 64 at few
      rw [noGrant _ rfl] at few
      have freed := (kept.separate few).free (uses offset rfl)
      rw [HashMap.erase_of_notMem absent] at freed
      exact freed.record rfl nofun
  | released was => exact ⟨counted, kept.drawn, kept.separate⟩

/-- What the server promises: offsets are handed out once, the two records of occupancy agree,
stores are accepted, and a load returns the page which its client stored last. -/
structure Promised (pool : Pool Client) : Prop where
  distinct : (grants pool.log).Nodup
  accounted : pool.store.Accounted
  accepted : StoresAccepted pool.log
  loads : LoadsOwn pool.log

/-- The promises hold at every point of every run of clients which use what they hold, as long
as the counter of the offsets has not come round. -/
theorem promised_of_usesHeld (maxPages : UInt64) {actions : List (Client × ClientAction)}
    (uses : Transition.Along step UsesHeld (start Client maxPages) actions)
    (reached : Transition.run step (start Client maxPages) actions = some pool)
    (few : (grants pool.log).length ≤ 2 ^ 64) : pool.Promised := by
  have kept : pool.Kept := by
    refine Transition.run_induction (kept_start maxPages) ?_ uses reached
    intro current action next kept good stepped
    exact kept.stepped good (stepped_of_step stepped)
  have separate := kept.separate few
  have shorter : pool.store.len ≤ pool.held.length := separate.size_le
  have counts := kept.counted.used
  refine ⟨kept.drawn.distinct few, ⟨?_, kept.counted.limited⟩, separate.accepted,
    separate.loads⟩
  omega

/-- Two clients ask for an offset at the same time and one of them has to try again; then both
use what they got. -/
def twoClients : List (Bool × ClientAction) :=
  [(false, .alloc), (true, .alloc), (false, .proceed), (true, .proceed), (true, .proceed),
    (false, .proceed), (true, .proceed), (false, .proceed), (false, .proceed), (false, .proceed),
    (false, .store 1 (.filled 1)), (true, .store 0 (.filled 2)), (false, .load 1),
    (true, .free 0), (true, .proceed)]

theorem twoClients_promised :
    ∃ pool, Transition.run step (start Bool 2) twoClients = some pool ∧
      pool.log = [.granted true 0, .granted false 1, .stored false 1 (.filled 1) true,
        .stored true 0 (.filled 2) true, .loaded false 1 (some (.filled 1)),
        .freed true 0 true] ∧ pool.Promised := by
  have ran : ∃ pool, Transition.run step (start Bool 2) twoClients = some pool ∧
      pool.log = [.granted true 0, .granted false 1, .stored false 1 (.filled 1) true,
        .stored true 0 (.filled 2) true, .loaded false 1 (some (.filled 1)),
        .freed true 0 true] := ⟨_, rfl, rfl⟩
  rcases ran with ⟨pool, reached, logged⟩
  have uses : Transition.Along step UsesHeld (start Bool 2) twoClients := by decide
  have few : (grants pool.log).length ≤ 2 ^ 64 := by
    rw [logged]
    decide
  exact ⟨pool, reached, logged, promised_of_usesHeld 2 uses reached few⟩

end Pool

end Duvm.Memserver
