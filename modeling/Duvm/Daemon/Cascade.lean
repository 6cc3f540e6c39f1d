import Duvm.Daemon.Restarts
import Duvm.Daemon.Tiers

/-!
# How far a store looks for a backend

`store_page` settles on one tier before it has asked any backend. Within the tier it asks
every backend with room, until one takes the page; so a store succeeds if and only if some
backend of the tier takes it. A backend of another tier is not asked, even if it has room
and all backends of the chosen tier fail.
-/

namespace Duvm.Daemon

universe u

namespace Engine

variable {Backend : Type u} [DuvmBackend Backend] {engine : Engine Backend} {env : CallEnv}
  {offset : UInt64} {data : PageBuffer} {tier : Tier}

/-- The backend gives out a slot and then takes the page. -/
def Accepts (data : PageBuffer) (backend : Backend) : Prop :=
  ∃ handle issued after, DuvmBackend.allocPage backend = (.ok handle, issued) ∧
    DuvmBackend.storePage issued handle data = (.ok (), after)

def Panics (backend : Backend) : Prop := (DuvmBackend.allocPage backend).1 = .panic

/-- Some backend in the list takes the page. -/
def AcceptedIn (engine : Engine Backend) (data : PageBuffer) (ids : List UInt8) : Prop :=
  ∃ id ∈ ids, ∃ backend, engine.backends.lookup id = some backend ∧ Accepts data backend

/-- A backend which does not take the page can be left out of the list. -/
theorem acceptedIn_cons_of_not {id : UInt8} {rest : List UInt8}
    (declines : ∀ backend, engine.backends.lookup id = some backend → ¬Accepts data backend) :
    engine.AcceptedIn data (id :: rest) ↔ engine.AcceptedIn data rest := by
  constructor
  · rintro ⟨other, listed, backend, found, accepts⟩
    rcases List.mem_cons.mp listed with rfl | later
    · exact absurd accepts (declines backend found)
    · exact ⟨other, later, backend, found, accepts⟩
  · rintro ⟨other, listed, accepted⟩
    exact ⟨other, List.mem_cons_of_mem _ listed, accepted⟩

theorem acceptedIn_setBackend {id : UInt8} {rest : List UInt8} {backend after : Backend}
    (found : engine.backends.lookup id = some backend) (absent : id ∉ rest) :
    (engine.setBackend id after).AcceptedIn data rest ↔ engine.AcceptedIn data rest := by
  refine exists_congr fun other => and_congr_right fun listed => ?_
  have different : other ≠ id := by
    rintro rfl
    exact absent listed
  rw [lookup_setBackend found, if_neg different]

/-- The loop over the candidates succeeds if and only if one of them takes the page. -/
theorem isOk_storeOn_iff {ids : List UInt8} {lastErr : Option DuvmError} (distinct : ids.Nodup)
    (calm : ∀ id ∈ ids, ∀ backend, engine.backends.lookup id = some backend → ¬Panics backend) :
    (storeOn env offset data tier ids lastErr engine).1.isOk = true ↔
      engine.AcceptedIn data ids := by
  induction ids generalizing engine lastErr with
  | nil =>
      constructor
      · intro isOk
        cases isOk
      · rintro ⟨_, listed, _⟩
        cases listed
  | cons id rest ih =>
      rw [List.nodup_cons] at distinct
      have restCalm : ∀ other ∈ rest, ∀ backend, engine.backends.lookup other = some backend →
          ¬Panics backend := fun other listed => calm other (List.mem_cons_of_mem _ listed)
      -- after a refusal the loop goes on with the rest, which has not been asked yet
      have further : ∀ (backend after : Backend) (error : Option DuvmError),
          engine.backends.lookup id = some backend → ¬Accepts data backend →
          ((storeOn env offset data tier rest error (engine.setBackend id after)).1.isOk = true ↔
            engine.AcceptedIn data (id :: rest)) := by
        intro backend after error found declines
        have declinesOnly : ∀ other, engine.backends.lookup id = some other →
            ¬Accepts data other := by
          intro other isFound
          cases found.symm.trans isFound
          exact declines
        rw [acceptedIn_cons_of_not declinesOnly, ← acceptedIn_setBackend found distinct.1]
        refine ih distinct.2 ?_
        intro other listed second isFound
        have different : other ≠ id := by
          rintro rfl
          exact distinct.1 listed
        rw [lookup_setBackend found, if_neg different] at isFound
        exact restCalm other listed second isFound
      have round := tried env offset data tier id rest lastErr engine
      generalize storeOn env offset data tier (id :: rest) lastErr engine = result at round ⊢
      cases round with
      | absent unknown =>
          rw [ih distinct.2 restCalm, acceptedIn_cons_of_not]
          intro backend found
          cases unknown.symm.trans found
      | panicked backend after found panics =>
          exact absurd (congrArg Prod.fst panics) (calm id List.mem_cons_self backend found)
      | denied backend after error found refused =>
          apply further backend after _ found
          rintro ⟨handle, issued, _, allocated, _⟩
          cases refused.symm.trans allocated
      | returned backend issued failed handle error found allocated refused =>
          apply further backend _ _ found
          rintro ⟨_, _, _, isAllocated, stored⟩
          cases allocated.symm.trans isAllocated
          cases refused.symm.trans stored
      | placed backend issued after handle found allocated stored =>
          refine iff_of_true rfl ?_
          exact ⟨id, List.mem_cons_self, backend, found, handle, issued, after, allocated, stored⟩

/-- A store succeeds if and only if a backend with room takes the page which is of the tier
chosen, once the old page of the offset has been released. -/
theorem store_succeeds_iff_tier_accepts
    (selected : PolicyEngine.selectTier (engine.releaseOld offset).backendCapacities = some tier)
    (calm : ∀ id backend, (engine.releaseOld offset).RoomyAt tier id backend → ¬Panics backend) :
    (engine.storePage env offset data).1.isOk = true ↔
      ∃ id backend, (engine.releaseOld offset).RoomyAt tier id backend ∧ Accepts data backend := by
  have ranking : (engine.releaseOld offset).Ranking utilization tier
      ((engine.releaseOld offset).tierBackendCandidates tier) :=
    ranking_candidatesBy (selectTier_eq_some_iff.mp selected).1
  have chosen : engine.storePage env offset data = storeOn env offset data tier
      ((engine.releaseOld offset).tierBackendCandidates tier) none (engine.releaseOld offset) := by
    rw [storePage, chooseTier, selected]
  have roomyAt : ∀ id ∈ (engine.releaseOld offset).tierBackendCandidates tier, ∀ backend,
      (engine.releaseOld offset).backends.lookup id = some backend →
        (engine.releaseOld offset).RoomyAt tier id backend := by
    intro id listed backend found
    rcases (ranking.exactly id).mp listed with ⟨other, roomy⟩
    cases found.symm.trans roomy.found
    exact roomy
  rw [chosen, isOk_storeOn_iff ranking.distinct fun id listed backend found =>
    calm id backend (roomyAt id listed backend found)]
  constructor
  · rintro ⟨id, listed, backend, found, accepts⟩
    exact ⟨id, backend, roomyAt id listed backend found, accepts⟩
  · rintro ⟨id, backend, roomy, accepts⟩
    exact ⟨id, (ranking.exactly id).mpr ⟨backend, roomy⟩, backend, roomy.found, accepts⟩

end Engine

/-- A connection to a server for two pages. -/
def peer (fates : List Fate) : TcpLink := ⟨.connected 0 "server" 2 0, .start 2, fates⟩

/-- Two servers, of which the first is cut off when it is asked for a slot. -/
def cutOffFirst : Engine TcpLink :=
  twoLinks (peer [calmly .requestLost]) (peer [calmly .answered, calmly .answered])

theorem lookup_twoLinks {first second link : TcpLink} {id : UInt8}
    (found : (twoLinks first second).backends.lookup id = some link) :
    link = first ∨ link = second := by
  rw [twoLinks, Engine.withBackends, HashMap.lookup_insert_eq_ite,
    HashMap.lookup_insert_eq_ite] at found
  split at found
  · exact Or.inl (Option.some.inj found).symm
  · split at found
    · exact Or.inr (Option.some.inj found).symm
    · cases (AList.lookup_empty id).symm.trans found

/-- The page goes to the second one. -/
theorem second_link_takes_page :
    (cutOffFirst.storePage ⟨0, .listed TrackedPage⟩ 1 .zero).1.isOk = true := by
  have selected : PolicyEngine.selectTier (cutOffFirst.releaseOld 1).backendCapacities =
      some .rdma := rfl
  refine (Engine.store_succeeds_iff_tier_accepts selected ?_).mpr ?_
  · intro id link roomy panics
    rcases lookup_twoLinks roomy.found with rfl | rfl
    · cases panics
    · cases panics
  · exact ⟨1, _, ⟨rfl, rfl, rfl⟩, _, _, _, rfl, rfl⟩

/-- A memory backend whose next call fails, and a server which answers. -/
def failingMemoryAndPeer : Engine (Flaky MemoryBackend ⊕ TcpLink) :=
  .withBackends (((∅ : HashMap UInt8 (Flaky MemoryBackend ⊕ TcpLink)).insert 1
    (.inr (peer [calmly .answered, calmly .answered]))).insert 0 (.inl ⟨.new 0 1, [true]⟩))

/-- The server has room and would take the page, but it is of another tier: the store fails. -/
theorem accepting_tier_not_asked :
    (∃ backend, failingMemoryAndPeer.backends.lookup 1 = some backend ∧
      Engine.hasRoom backend = true ∧ Engine.Accepts .zero backend) ∧
    (failingMemoryAndPeer.storePage ⟨0, .listed TrackedPage⟩ 1 .zero).1 = .err .io := by
  refine ⟨⟨_, rfl, rfl, _, _, _, rfl, rfl⟩, ?_⟩
  decide +kernel

end Duvm.Daemon
