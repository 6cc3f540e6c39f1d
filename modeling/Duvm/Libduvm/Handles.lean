import Duvm.Backend.Lz4
import Duvm.Libduvm.Pool
import Duvm.Library.Log
import Duvm.Library.Transition

/-!
# The pool as a map from handles to pages

Whatever a program does with the pool, and whatever words it passes off as handles, the
pool is a finite map: a store adds a page under a handle which was never used, a load looks
a handle up, and `free` removes what is under a handle, if anything is. The map is computed
from the record of the calls; the pool keeps it in its compression backend.
-/

namespace Duvm

namespace PageHandle

theorem toNat_backendId (handle : PageHandle) :
    handle.backendId.toNat = handle.raw.toNat / 2 ^ 56 := by
  have bound := handle.raw.toNat_lt
  have amount : (56 : UInt64).toNat % 64 = 56 := rfl
  rw [backendId, UInt64.toNat_toUInt8, UInt64.toNat_shiftRight, amount, Nat.shiftRight_eq_div_pow]
  omega

/-- A handle is its backend and its offset. -/
theorem eq_of_parts {left right : PageHandle} (sameBackend : left.backendId = right.backendId)
    (sameOffset : left.offset = right.offset) : left = right := by
  have backend := congrArg UInt8.toNat sameBackend
  have offset := congrArg UInt64.toNat sameOffset
  rw [toNat_backendId, toNat_backendId] at backend
  rw [toNat_offset, toNat_offset] at offset
  have raw : left.raw = right.raw := by
    apply UInt64.toNat_inj.mp
    omega
  cases left
  cases right
  exact congrArg mk raw

end PageHandle

namespace Libduvm

inductive PoolCall where
  | store (data : PageBuffer)
  | load (raw : UInt64)
  | free (raw : UInt64)
deriving DecidableEq

inductive PoolReply where
  | handle (handle : PageHandle)
  | page (data : PageBuffer)
  | done
  | error (error : PoolError)
deriving DecidableEq

structure PoolEvent where
  call : PoolCall
  reply : PoolReply
deriving DecidableEq

/-- The pool, with a record of the calls made on it and their results. -/
structure PoolSession (codec : Lz4) where
  pool : Pool codec
  log : List PoolEvent

/-- The handles which were returned, in order. -/
def issued (log : List PoolEvent) : List UInt64 :=
  log.filterMap fun event =>
    match event.reply with
    | .handle handle => some handle.raw
    | _ => none

/-- The handle was returned for the page, and was not freed since. -/
def Live (log : List PoolEvent) (raw : UInt64) (data : PageBuffer) : Prop :=
  ∃ before after, log = before ++ ⟨.store data, .handle ⟨raw⟩⟩ :: after ∧
    ∀ event ∈ after, event.call ≠ .free raw

/-- The number of calls which store a page. -/
def stores (calls : List PoolCall) : ℕ :=
  calls.countP fun
    | .store _ => true
    | .load _ | .free _ => false

/-- What an event does to the map. -/
def PoolEvent.apply (pages : HashMap UInt64 PageBuffer) (event : PoolEvent) :
    HashMap UInt64 PageBuffer :=
  match event.call, event.reply with
  | .store data, .handle handle => pages.insert handle.raw data
  | .free raw, _ => pages.erase raw
  | _, _ => pages

/-- The live pages according to the record. -/
def livePages (log : List PoolEvent) : HashMap UInt64 PageBuffer :=
  log.foldl PoolEvent.apply ∅

theorem livePages_concat (log : List PoolEvent) (event : PoolEvent) :
    livePages (log ++ [event]) = event.apply (livePages log) := by
  rw [livePages, List.foldl_append]
  rfl

theorem issued_concat (log : List PoolEvent) (event : PoolEvent) :
    issued (log ++ [event]) = issued log ++ issued [event] :=
  List.filterMap_append

theorem live_concat (log : List PoolEvent) (event : PoolEvent) (raw : UInt64) (data : PageBuffer) :
    Live (log ++ [event]) raw data ↔
      event = ⟨.store data, .handle ⟨raw⟩⟩ ∨ Live log raw data ∧ event.call ≠ .free raw := by
  constructor
  · rintro ⟨before, after, split, unfreed⟩
    rcases List.eq_nil_or_concat after with rfl | ⟨earlier, last, rfl⟩
    · exact Or.inl (List.singleton_inj.mp (List.append_inj' split rfl).2)
    · rw [List.concat_eq_append] at split unfreed
      rw [← List.cons_append, ← List.append_assoc] at split
      rcases List.append_inj' split rfl with ⟨rfl, same⟩
      rw [List.singleton_inj.mp same]
      refine Or.inr ⟨⟨before, earlier, rfl, ?_⟩, unfreed last (by simp)⟩
      exact fun other listed => unfreed other (List.mem_append_left _ listed)
  · rintro (rfl | ⟨⟨before, after, rfl, unfreed⟩, spared⟩)
    · exact ⟨log, [], rfl, fun _ none => by cases none⟩
    · refine ⟨before, after ++ [event], by simp, ?_⟩
      intro other listed
      rcases List.mem_append.mp listed with old | new
      · exact unfreed other old
      · rw [List.mem_singleton.mp new]
        exact spared

theorem mem_issued_of_live {log : List PoolEvent} {raw : UInt64} {data : PageBuffer}
    (live : Live log raw data) : raw ∈ issued log := by
  rcases live with ⟨before, after, rfl, _⟩
  simp [issued]

/-- As long as no handle is returned twice, the map has the pages which are live. -/
theorem lookup_livePages_iff {log : List PoolEvent} (distinct : (issued log).Nodup) (raw : UInt64)
    (data : PageBuffer) : (livePages log).lookup raw = some data ↔ Live log raw data := by
  induction log using List.reverseRecOn with
  | nil =>
      constructor
      · intro found
        cases found
      · rintro ⟨before, after, split, _⟩
        simp at split
  | append_singleton log event ih =>
      rw [issued_concat, List.nodup_append] at distinct
      rw [livePages_concat, live_concat, ← ih distinct.1]
      rcases event with ⟨call, reply⟩
      cases call with
      | load other => simp [PoolEvent.apply]
      | free freed =>
          simp only [PoolEvent.apply, HashMap.lookup_erase_eq_ite]
          by_cases same : raw = freed
          · simp [same]
          · simp [same, Ne.symm same]
      | store stored =>
          cases reply with
          | page _ | done | error _ => simp [PoolEvent.apply]
          | handle handle =>
              simp only [PoolEvent.apply, HashMap.lookup_insert_eq_ite]
              by_cases same : raw = handle.raw
              · subst same
                have fresh : handle.raw ∉ issued log := by
                  intro listed
                  exact distinct.2.2 _ listed _ (by simp [issued]) rfl
                have dead : (livePages log).lookup handle.raw ≠ some data := by
                  intro found
                  exact fresh (mem_issued_of_live ((ih distinct.1).mp found))
                simp [dead]
              · have other : handle ≠ ⟨raw⟩ := by
                  rintro rfl
                  exact same rfl
                simp [same, other]

namespace PoolSession

variable {codec : Lz4}

def start (codec : Lz4) : PoolSession codec := ⟨.standalone codec, []⟩

def record (session : PoolSession codec) (pool : Pool codec) (event : PoolEvent) :
    PoolSession codec :=
  ⟨pool, session.log ++ [event]⟩

/-- One call; there is no session after a panic. -/
def step (session : PoolSession codec) : PoolCall → Option (PoolSession codec)
  | .store data =>
      match session.pool.store data with
      | none => none
      | some (.ok handle, pool) => some (session.record pool ⟨.store data, .handle handle⟩)
      | some (.error error, pool) => some (session.record pool ⟨.store data, .error error⟩)
  | .load raw =>
      match session.pool.load ⟨raw⟩ with
      | (.ok data, pool) => some (session.record pool ⟨.load raw, .page data⟩)
      | (.error error, pool) => some (session.record pool ⟨.load raw, .error error⟩)
  | .free raw =>
      match session.pool.free ⟨raw⟩ with
      | (.ok (), pool) => some (session.record pool ⟨.free raw, .done⟩)
      | (.error error, pool) => some (session.record pool ⟨.free raw, .error error⟩)

/-- The memory backend of the pool, which never receives a page. -/
def unused (codec : Lz4) : LocalBackend codec := .memory (.new 0 defaultMaxPages)

/-- The page under a handle, given the compression backend. -/
def pageUnder (backend : LocalBackend codec) (raw : UInt64) : Option PageBuffer :=
  if (⟨raw⟩ : PageHandle).backendId = 1 then
    (LawfulBackend.slots backend).page (⟨raw⟩ : PageHandle).offset
  else none

/-- The compression backend keeps the live pages. -/
structure Represents (session : PoolSession codec) (backend : LocalBackend codec) : Prop where
  pool : session.pool = .ofBackends (unused codec) backend
  valid : LawfulBackend.Valid backend
  identifier : backend.backendId = 1
  pages : ∀ raw, (livePages session.log).lookup raw = pageUnder backend raw
  used : HashMap.size (livePages session.log) = (LawfulBackend.slots backend).used
  given : ∀ raw ∈ issued session.log, (⟨raw⟩ : PageHandle).backendId = 1 ∧
    (⟨raw⟩ : PageHandle).offset.toNat < (LawfulBackend.slots backend).issued
  distinct : (issued session.log).Nodup

theorem represents_start (codec : Lz4) :
    (start codec).Represents (.compress (.new 1 defaultMaxPages)) where
  pool := rfl
  valid := ⟨PageTable.valid_new 1 defaultMaxPages, fun _ _ found => by cases found⟩
  identifier := rfl
  pages := by
    intro raw
    unfold pageUnder
    split
    · rfl
    · rfl
  used := rfl
  given := fun _ listed => by cases listed
  distinct := List.nodup_nil

namespace Represents

variable {session : PoolSession codec} {backend : LocalBackend codec}

/-- A call which leaves the backend as it is, and the live pages. -/
theorem unchanged (represents : session.Represents backend) {event : PoolEvent}
    (sameLive : livePages (session.log ++ [event]) = livePages session.log)
    (notIssued : issued [event] = []) :
    (session.record session.pool event).Represents backend where
  pool := represents.pool
  valid := represents.valid
  identifier := represents.identifier
  pages := by
    rw [record, sameLive]
    exact represents.pages
  used := by
    rw [record, sameLive]
    exact represents.used
  given := by
    rw [record, issued_concat, notIssued, List.append_nil]
    exact represents.given
  distinct := by
    rw [record, issued_concat, notIssued, List.append_nil]
    exact represents.distinct

/-- A load finds the live page under the handle, and changes nothing. -/
theorem load (represents : session.Represents backend) (raw : UInt64) :
    (∀ data, (livePages session.log).lookup raw = some data →
      session.pool.load ⟨raw⟩ = (.ok data, session.pool)) ∧
    ((livePages session.log).lookup raw = none →
      ∃ error, session.pool.load ⟨raw⟩ = (.error error, session.pool)) := by
  rw [represents.pages, pageUnder, represents.pool, Pool.load, Pool.lookup_ofBackends]
  by_cases compressed : (⟨raw⟩ : PageHandle).backendId = 1
  · rcases LawfulBackend.load ⟨raw⟩ represents.valid with ⟨found, absent⟩
    simp only [compressed, if_true, Pool.setBackend_compress]
    constructor
    · intro data isPage
      rw [found data isPage]
    · intro noPage
      rcases absent noPage with ⟨error, failed⟩
      exact ⟨.backend error, by rw [failed]⟩
  · simp only [compressed, if_false]
    refine ⟨fun data isPage => (by cases isPage), fun _ => ?_⟩
    by_cases memory : (⟨raw⟩ : PageHandle).backendId = 0
    · simp only [memory, if_true]
      exact ⟨_, rfl⟩
    · simp only [memory, if_false]
      exact ⟨_, rfl⟩

variable {after : LocalBackend codec} {raw : UInt64}

/-- A change of one slot is seen under its handle only. -/
theorem pageUnder_update {value : Option PageBuffer}
    (compressed : (⟨raw⟩ : PageHandle).backendId = 1)
    (updated : (LawfulBackend.slots after).page =
      Function.update (LawfulBackend.slots backend).page (⟨raw⟩ : PageHandle).offset value)
    (other : UInt64) :
    pageUnder after other = if other = raw then value else pageUnder backend other := by
  unfold pageUnder
  rw [updated]
  by_cases same : other = raw
  · subst same
    rw [if_pos compressed, if_pos rfl, Function.update_self]
  · rw [if_neg same]
    by_cases alsoCompressed : (⟨other⟩ : PageHandle).backendId = 1
    · rw [if_pos alsoCompressed, if_pos alsoCompressed, Function.update_of_ne]
      intro sameOffset
      have sameHandle := PageHandle.eq_of_parts (alsoCompressed.trans compressed.symm) sameOffset
      exact same (congrArg PageHandle.raw sameHandle)
    · rw [if_neg alsoCompressed, if_neg alsoCompressed]

/-- The page under a handle of the backend is removed. -/
theorem cleared (represents : session.Represents backend) {reply : PoolReply}
    (compressed : (⟨raw⟩ : PageHandle).backendId = 1) (valid : LawfulBackend.Valid after)
    (identifier : after.backendId = 1)
    (clears : LawfulBackend.slots after =
      (LawfulBackend.slots backend).clear (⟨raw⟩ : PageHandle).offset)
    (notIssued : issued [⟨.free raw, reply⟩] = []) :
    (session.record (.ofBackends (unused codec) after) ⟨.free raw, reply⟩).Represents after where
  pool := rfl
  valid := valid
  identifier := identifier
  pages := by
    intro other
    have updated := pageUnder_update compressed (congrArg Slots.page clears) other
    rw [record, livePages_concat, PoolEvent.apply, HashMap.lookup_erase_eq_ite, updated,
      represents.pages]
  used := by
    have sameSize := represents.used
    have found := represents.pages raw
    rw [pageUnder, if_pos compressed] at found
    rw [record, livePages_concat, PoolEvent.apply, clears, Slots.clear]
    simp only
    split
    · next isPage =>
        rw [← found, AList.lookup_isSome] at isPage
        have fewer := HashMap.size_erase_of_mem isPage
        omega
    · next noPage =>
        rw [← found, AList.lookup_isSome] at noPage
        rw [HashMap.erase_of_notMem noPage]
        exact sameSize
  given := by
    rw [record, issued_concat, notIssued, List.append_nil, clears]
    exact represents.given
  distinct := by
    rw [record, issued_concat, notIssued, List.append_nil]
    exact represents.distinct

/-- Nothing is removed under a handle of another backend. -/
theorem erase_of_elsewhere (represents : session.Represents backend)
    (elsewhere : (⟨raw⟩ : PageHandle).backendId ≠ 1) (reply : PoolReply) :
    livePages (session.log ++ [⟨.free raw, reply⟩]) = livePages session.log := by
  rw [livePages_concat, PoolEvent.apply]
  apply HashMap.erase_of_notMem
  rw [← AList.lookup_eq_none, represents.pages, pageUnder, if_neg elsewhere]

theorem free (represents : session.Represents backend) (raw : UInt64) :
    ∃ next after, session.step (.free raw) = some next ∧ next.Represents after ∧
      next.pool = (session.pool.free ⟨raw⟩).2 ∧
      (∃ reply, next.log = session.log ++ [⟨.free raw, reply⟩]) ∧
      (LawfulBackend.slots after).issued = (LawfulBackend.slots backend).issued ∧
      (LawfulBackend.slots after).total = (LawfulBackend.slots backend).total := by
  have isPool := represents.pool
  by_cases compressed : (⟨raw⟩ : PageHandle).backendId = 1
  · rcases LawfulBackend.free ⟨raw⟩ represents.valid with ⟨after, freed, valid, clears⟩
    have identifier : after.backendId = 1 := by
      rw [← represents.identifier, ← LocalBackend.backendId_freePage backend ⟨raw⟩, freed]
    have result : session.pool.free ⟨raw⟩ = (.ok (), .ofBackends (unused codec) after) := by
      rw [isPool, Pool.free, Pool.lookup_ofBackends, if_pos compressed, compressed]
      simp only [freed, Pool.setBackend_compress]
    refine ⟨session.record (.ofBackends (unused codec) after) ⟨.free raw, .done⟩, after, ?_,
      represents.cleared compressed valid identifier clears rfl, ?_, ⟨.done, rfl⟩, ?_⟩
    · simp only [step, result]
    · rw [result]
      rfl
    · rw [clears]
      exact ⟨rfl, rfl⟩
  · by_cases memory : (⟨raw⟩ : PageHandle).backendId = 0
    · have result : session.pool.free ⟨raw⟩ = (.ok (), session.pool) := by
        rw [isPool, Pool.free, Pool.lookup_ofBackends, if_neg compressed, if_pos memory, memory]
        rfl
      refine ⟨session.record session.pool ⟨.free raw, .done⟩, backend, ?_,
        represents.unchanged (represents.erase_of_elsewhere compressed _) rfl, ?_, ⟨_, rfl⟩, rfl,
        rfl⟩
      · simp only [step, result]
      · rw [result]
        rfl
    · have result : session.pool.free ⟨raw⟩ =
          (.error (.backendNotFoundForFree (⟨raw⟩ : PageHandle).backendId), session.pool) := by
        rw [isPool, Pool.free, Pool.lookup_ofBackends, if_neg compressed, if_neg memory]
      refine ⟨session.record session.pool
          ⟨.free raw, .error (.backendNotFoundForFree (⟨raw⟩ : PageHandle).backendId)⟩, backend, ?_,
        represents.unchanged (represents.erase_of_elsewhere compressed _) rfl, ?_, ⟨_, rfl⟩, rfl,
        rfl⟩
      · simp only [step, result]
      · rw [result]
        rfl

/-- A page is stored under a handle which has just been issued. -/
theorem stored (represents : session.Represents backend) {handle : PageHandle} {data : PageBuffer}
    (compressed : handle.backendId = 1)
    (next : handle.offset.toNat = (LawfulBackend.slots backend).issued)
    (valid : LawfulBackend.Valid after) (identifier : after.backendId = 1)
    (puts : LawfulBackend.slots after =
      (LawfulBackend.slots backend).issue.put handle.offset data) :
    (session.record (.ofBackends (unused codec) after)
      ⟨.store data, .handle handle⟩).Represents after := by
  have free : (livePages session.log).lookup handle.raw = none := by
    rw [represents.pages, pageUnder, if_pos compressed, ← Option.not_isSome_iff_eq_none]
    intro occupied
    have below : handle.offset.toNat < _ := (LawfulBackend.occupied represents.valid occupied).1
    omega
  refine ⟨rfl, valid, identifier, ?_, ?_, ?_, ?_⟩
  · intro other
    have updated := pageUnder_update compressed (congrArg Slots.page puts) other
    rw [record, livePages_concat, PoolEvent.apply, HashMap.lookup_insert_eq_ite, updated,
      represents.pages]
  · rw [record, livePages_concat, PoolEvent.apply,
      HashMap.size_insert_of_notMem data (AList.lookup_eq_none.mp free), represents.used, puts]
    rfl
  · intro raw listed
    have isIssued : (LawfulBackend.slots after).issued =
        (LawfulBackend.slots backend).issued + 1 := by
      rw [puts]
      rfl
    rw [record, issued_concat, List.mem_append] at listed
    rw [isIssued]
    rcases listed with old | new
    · rcases represents.given raw old with ⟨isCompressed, below⟩
      exact ⟨isCompressed, by omega⟩
    · rcases List.mem_singleton.mp new with rfl
      have last : handle.offset.toNat < (LawfulBackend.slots backend).issued + 1 := by omega
      exact ⟨compressed, last⟩
  · rw [record, issued_concat]
    refine List.Nodup.append represents.distinct (List.nodup_singleton _) ?_
    intro raw old new
    rcases List.mem_singleton.mp new with rfl
    have below : handle.offset.toNat < _ := (represents.given _ old).2
    omega

/-- What a store does: it is refused if the compression backend is full, else the page is kept
under the next handle. -/
theorem store_cases (represents : session.Represents backend) (data : PageBuffer)
    (few : (LawfulBackend.slots backend).issued < PageHandle.offsetLimit) :
    ((LawfulBackend.slots backend).total ≤ (LawfulBackend.slots backend).used ∧
      ∃ error, session.pool.store data = some (.error error, session.pool)) ∨
    ((LawfulBackend.slots backend).used < (LawfulBackend.slots backend).total ∧
      ∃ handle after,
        session.pool.store data = some (.ok handle, .ofBackends (unused codec) after) ∧
        (session.record (.ofBackends (unused codec) after)
          ⟨.store data, .handle handle⟩).Represents after ∧
        LawfulBackend.slots after =
          (LawfulBackend.slots backend).issue.put handle.offset data) := by
  have preferred : (Pool.ofBackends (unused codec) backend).preferred = some (1, backend) := by
    rw [Pool.preferred, Pool.lookup_ofBackends, if_pos rfl]
  rcases LawfulBackend.alloc represents.valid with
    ⟨full, error, refused⟩ | ⟨_, spent, _⟩ |
      ⟨room, handle, granted, allocated, valid, slot, issue⟩
  · refine Or.inl ⟨full, .backend error, ?_⟩
    rw [represents.pool, Pool.store, preferred]
    simp only [refused, Pool.setBackend_compress]
  · omega
  · rcases LocalBackend.backendId_of_allocated allocated with ⟨compressed, sameId⟩
    rw [represents.identifier] at compressed sameId
    have isFree : (LawfulBackend.slots granted).page handle.offset = none := by
      rw [issue, ← Option.not_isSome_iff_eq_none]
      intro occupied
      have below := (LawfulBackend.occupied represents.valid occupied).1
      omega
    have wasIssued : handle.offset.toNat < (LawfulBackend.slots granted).issued := by
      rw [issue, slot]
      exact Nat.lt_succ_self _
    rcases LawfulBackend.store data valid (issue ▸ room) wasIssued isFree with
      ⟨after, stored, stillValid, puts⟩
    have identifier : after.backendId = 1 := by
      rw [← sameId, ← LocalBackend.backendId_storePage granted handle data, stored]
    rw [issue] at puts
    refine Or.inr ⟨room, handle, after, ?_,
      represents.stored compressed slot stillValid identifier puts, puts⟩
    rw [represents.pool, Pool.store, preferred]
    simp only [allocated, stored, Pool.setBackend_compress]

theorem store (represents : session.Represents backend) (data : PageBuffer)
    (few : (LawfulBackend.slots backend).issued < PageHandle.offsetLimit) :
    ∃ next after, session.step (.store data) = some next ∧ next.Represents after ∧
      (LawfulBackend.slots after).issued ≤ (LawfulBackend.slots backend).issued + 1 ∧
      (LawfulBackend.slots after).total = (LawfulBackend.slots backend).total := by
  rcases represents.store_cases data few with
    ⟨_, error, result⟩ | ⟨_, handle, after, result, later, puts⟩
  · refine ⟨session.record session.pool ⟨.store data, .error error⟩, backend, ?_,
      represents.unchanged ?_ rfl, Nat.le_succ _, rfl⟩
    · simp only [step, result]
    · rw [livePages_concat, PoolEvent.apply]
  · refine ⟨_, after, ?_, later, ?_⟩
    · simp only [step, result]
    · rw [puts]
      exact ⟨le_rfl, rfl⟩

/-- Every call has a result and leaves the pool a map, as long as handles are left. -/
theorem step (represents : session.Represents backend) (call : PoolCall)
    (few : (LawfulBackend.slots backend).issued + stores [call] ≤ PageHandle.offsetLimit) :
    ∃ next after, session.step call = some next ∧ next.Represents after ∧
      (LawfulBackend.slots after).issued ≤
        (LawfulBackend.slots backend).issued + stores [call] ∧
      (LawfulBackend.slots after).total = (LawfulBackend.slots backend).total := by
  cases call with
  | store data => exact represents.store data few
  | load raw =>
      rcases represents.load raw with ⟨found, absent⟩
      cases live : (livePages session.log).lookup raw with
      | some data =>
          refine ⟨session.record session.pool ⟨.load raw, .page data⟩, backend, ?_,
            represents.unchanged (livePages_concat _ _) rfl, le_rfl, rfl⟩
          simp only [PoolSession.step, found data live]
      | none =>
          rcases absent live with ⟨error, failed⟩
          refine ⟨session.record session.pool ⟨.load raw, .error error⟩, backend, ?_,
            represents.unchanged (livePages_concat _ _) rfl, le_rfl, rfl⟩
          simp only [PoolSession.step, failed]
  | free raw =>
      rcases represents.free raw with ⟨next, after, stepped, later, _, _, same, sameTotal⟩
      exact ⟨next, after, stepped, later, le_of_eq same, sameTotal⟩

theorem run (represents : session.Represents backend) (calls : List PoolCall)
    (few : (LawfulBackend.slots backend).issued + stores calls ≤ PageHandle.offsetLimit) :
    ∃ final after, Transition.run PoolSession.step session calls = some final ∧
      final.Represents after ∧
      (LawfulBackend.slots after).issued ≤
        (LawfulBackend.slots backend).issued + stores calls ∧
      (LawfulBackend.slots after).total = (LawfulBackend.slots backend).total := by
  induction calls generalizing session backend with
  | nil => exact ⟨session, backend, rfl, represents, le_rfl, rfl⟩
  | cons call rest ih =>
      have split : stores (call :: rest) = stores [call] + stores rest :=
        @List.countP_append _ _ [call] rest
      rcases represents.step call (by omega) with
        ⟨next, after, stepped, later, bounded, sameTotal⟩
      rw [Transition.run_cons_of_step rest stepped, ← sameTotal]
      rcases ih later (by omega) with ⟨final, last, ran, represented, few, total⟩
      exact ⟨final, last, ran, represented, by omega, total⟩

theorem toNat_capacity (represents : session.Represents backend) :
    session.pool.capacity.2.toNat = HashMap.size (livePages session.log) := by
  have used := LocalBackend.toNat_capacity represents.valid
  have nothing : (DuvmBackend.capacity (unused codec)).2 = 0 := rfl
  rw [represents.used, ← used, represents.pool, Pool.capacity, Pool.entries_ofBackends]
  simp only [List.foldl_cons, List.foldl_nil, nothing, zero_saturatingAdd, saturatingAdd_zero]

end Represents

/-- The pool is a map from handles to pages: handles are new, none of them is the error value of
the C interface, loads find what is live, a `free` disturbs no other page, and the pages in use
are the live ones. -/
structure HandleMap (session : PoolSession codec) : Prop where
  distinct : (issued session.log).Nodup
  valid : noHandle ∉ issued session.log
  loads : ∀ raw data, (session.pool.load ⟨raw⟩).1 = .ok data ↔ Live session.log raw data
  frees : ∀ raw other data, other ≠ raw → Live session.log other data →
    ((session.pool.free ⟨raw⟩).2.load ⟨other⟩).1 = .ok data
  counted : ∃ live : Finset UInt64, (∀ raw, raw ∈ live ↔ ∃ data, Live session.log raw data) ∧
    session.pool.capacity.2.toNat = live.card

namespace Represents

variable {session : PoolSession codec} {backend : LocalBackend codec}

theorem load_eq_ok_iff (represents : session.Represents backend) (raw : UInt64)
    (data : PageBuffer) :
    (session.pool.load ⟨raw⟩).1 = .ok data ↔ Live session.log raw data := by
  rw [← lookup_livePages_iff represents.distinct]
  rcases represents.load raw with ⟨found, absent⟩
  cases live : (livePages session.log).lookup raw with
  | none =>
      rcases absent live with ⟨error, failed⟩
      simp [failed]
  | some page => simp [found page live]

theorem handleMap (represents : session.Represents backend) : session.HandleMap where
  distinct := represents.distinct
  valid := by
    intro listed
    have impossible : (⟨noHandle⟩ : PageHandle).backendId = 1 := (represents.given _ listed).1
    exact absurd impossible (by decide)
  loads := represents.load_eq_ok_iff
  frees := by
    intro raw other data distinct live
    rcases represents.free raw with ⟨next, after, _, later, samePool, ⟨reply, isLog⟩, _, _⟩
    rw [← samePool, later.load_eq_ok_iff, isLog, live_concat]
    refine Or.inr ⟨live, ?_⟩
    intro same
    exact distinct (PoolCall.free.inj same).symm
  counted := by
    refine ⟨(livePages session.log).keys.toFinset, ?_, ?_⟩
    · intro raw
      rw [List.mem_toFinset, ← AList.mem_keys, ← AList.lookup_isSome, Option.isSome_iff_exists]
      exact exists_congr fun data => lookup_livePages_iff represents.distinct raw data
    · rw [represents.toNat_capacity]
      apply HashMap.size_eq_card
      intro raw
      rw [List.mem_toFinset, AList.mem_keys]

end Represents

/-- With no more stores than there are handles, every sequence of calls runs to its end. -/
theorem represents_of_run (codec : Lz4) {calls : List PoolCall} (few : stores calls ≤ 2 ^ 56) :
    ∃ session backend, Transition.run step (start codec) calls = some session ∧
      session.Represents backend ∧ (LawfulBackend.slots backend).issued ≤ stores calls ∧
      (LawfulBackend.slots backend).total = defaultMaxPages.toNat := by
  have fresh : (LawfulBackend.slots
      (.compress (.new 1 defaultMaxPages) : LocalBackend codec)).issued = 0 := rfl
  have enough : 0 + stores calls ≤ PageHandle.offsetLimit := by
    rw [Nat.zero_add]
    exact few
  have ran := (represents_start codec).run calls (fresh.symm ▸ enough)
  rw [fresh, Nat.zero_add] at ran
  exact ran

/-- With fewer than `2 ^ 56` stores, every sequence of calls runs to its end, and leaves the
pool a map from handles to pages. -/
theorem pool_is_handleMap (codec : Lz4) (calls : List PoolCall) (few : stores calls < 2 ^ 56) :
    ∃ session, Transition.run step (start codec) calls = some session ∧ session.HandleMap := by
  rcases represents_of_run codec few.le with ⟨session, backend, reached, represents, _⟩
  exact ⟨session, reached, represents.handleMap⟩

/-- Two pages are stored; handles are freed which were never issued, and one twice. -/
theorem handleMap_of_stray_frees :
    ∃ session, Transition.run step (start .literalLz4)
        [.store countingPage, .free 0, .free noHandle, .store countingPage.reverse,
          .free (UInt64.ofNat (2 ^ 56)), .free (UInt64.ofNat (2 ^ 56)), .load 7] = some session ∧
      session.HandleMap :=
  pool_is_handleMap .literalLz4 _ (by decide)

/-- A C program which is given the error value knows that its page was not stored. -/
theorem duvmStorePage_eq_noHandle_iff {session : PoolSession codec} {calls : List PoolCall}
    (few : stores calls < 2 ^ 56)
    (reached : Transition.run step (start codec) calls = some session) (page : PageBuffer) :
    (Library.duvmStorePage ⟨some session.pool⟩ (some page)).map Prod.fst = some noHandle ↔
      ∃ error pool, session.pool.store page = some (.error error, pool) := by
  simp only [Library.duvmStorePage]
  cases result : session.pool.store page with
  | none => simp
  | some outcome =>
      rcases outcome with ⟨_ | handle, pool⟩
      · simp
      · have more : stores (calls ++ [.store page]) ≤ 2 ^ 56 := by
          rw [stores, List.countP_append]
          exact few
        rcases represents_of_run codec more with ⟨next, backend, continues, represents, _⟩
        rw [Transition.run_concat, reached, Option.bind_some] at continues
        simp only [step, result, Option.some.injEq] at continues
        subst continues
        have compressed := (represents.given handle.raw (by simp [issued, record])).1
        have distinct : handle.raw ≠ noHandle := by
          intro same
          rw [same] at compressed
          exact absurd compressed (by decide)
        simp [distinct]

end PoolSession

end Libduvm

end Duvm
