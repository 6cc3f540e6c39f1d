import Duvm.Backend.Contract
import Duvm.Backend.Lz4
import Duvm.Library.Transition

/-!
# The page limit of the local backends

`alloc_page` of the memory backend and of the compression backend compares the
number of stored pages with `max_pages` and reserves nothing; the page is
counted once it is stored. This file follows the handles which callers have
been given and have not freed, `Leases`, through any sequence of calls.

What can be stored is bounded by the handles which are out, so the limit is
kept if every allocation which succeeds finds fewer than `max_pages` handles
out. It is not kept otherwise: the handles which are out can all be stored to.
-/

namespace Duvm

open Transition

namespace LocalBackend

variable {codec : Lz4}

/-- The offsets under which there are pages. -/
def occupied : LocalBackend codec → List UInt64
  | .memory backend => backend.pages.keys
  | .compress backend => backend.pages.keys

def nextOffset : LocalBackend codec → UInt64
  | .memory backend => backend.nextOffset
  | .compress backend => backend.nextOffset

section Occupied

variable (backend : LocalBackend codec) (handle : PageHandle) (data : PageBuffer)

theorem nodup_occupied : backend.occupied.Nodup := by
  cases backend with
  | memory backend => exact AList.keys_nodup backend.pages
  | compress backend => exact AList.keys_nodup backend.pages

theorem capacity_eq :
    DuvmBackend.capacity backend = (backend.maxPages, UInt64.ofNat backend.occupied.length) := by
  cases backend with
  | memory backend => rfl
  | compress backend => rfl

theorem occupied_allocPage : (DuvmBackend.allocPage backend).2.occupied = backend.occupied := by
  cases backend with
  | memory backend =>
      exact congrArg AList.keys (PageTable.pages_allocPage .memoryFull backend.toPageTable)
  | compress backend =>
      exact congrArg AList.keys (PageTable.pages_allocPage .compressFull backend.toPageTable)

theorem occupied_storePage :
    (DuvmBackend.storePage backend handle data).2.occupied =
      handle.offset :: backend.occupied.erase handle.offset := by
  cases backend with
  | memory backend => exact AList.keys_insert backend.pages
  | compress backend => exact AList.keys_insert backend.pages

theorem occupied_freePage :
    (DuvmBackend.freePage backend handle).2.occupied = backend.occupied.erase handle.offset := by
  cases backend with
  | memory backend => exact AList.keys_erase handle.offset backend.pages
  | compress backend =>
      change ((CompressBackend.freePage backend handle).2.pages).keys = _
      unfold CompressBackend.freePage
      split
      · next absent =>
          have missing : handle.offset ∉ backend.pages.keys := AList.lookup_eq_none.mp absent
          exact (List.erase_of_not_mem missing).symm
      · exact AList.keys_erase handle.offset backend.pages

theorem mem_occupied_storePage {slot : UInt64} :
    slot ∈ (DuvmBackend.storePage backend handle data).2.occupied ↔
      slot = handle.offset ∨ slot ∈ backend.occupied := by
  rw [occupied_storePage, List.mem_cons]
  by_cases same : slot = handle.offset
  · simp [same]
  · simp [same, List.mem_erase_of_ne same]

theorem nextOffset_storePage :
    (DuvmBackend.storePage backend handle data).2.nextOffset = backend.nextOffset := by
  cases backend with
  | memory backend => rfl
  | compress backend => rfl

theorem nextOffset_freePage :
    (DuvmBackend.freePage backend handle).2.nextOffset = backend.nextOffset := by
  cases backend with
  | memory backend => rfl
  | compress backend =>
      change (CompressBackend.freePage backend handle).2.nextOffset = backend.nextOffset
      unfold CompressBackend.freePage
      split
      · rfl
      · rfl

end Occupied

variable {backend : LocalBackend codec}

theorem Fresh.occupied_eq_nil (fresh : backend.Fresh) :
    backend.occupied = [] := by
  cases backend with
  | memory backend =>
      rcases fresh with ⟨backendId, maxPages, rfl⟩
      rfl
  | compress backend =>
      rcases fresh with ⟨backendId, maxPages, rfl⟩
      rfl

/-- A handle is issued for the next offset, which fits it. -/
theorem offset_of_allocated {handle : PageHandle}
    (allocated : (DuvmBackend.allocPage backend).1 = .ok handle) :
    handle.offset = backend.nextOffset ∧ backend.nextOffset.toNat < PageHandle.offsetLimit ∧
      (DuvmBackend.allocPage backend).2.nextOffset.toNat = backend.nextOffset.toNat + 1 := by
  cases backend with
  | memory backend => exact PageTable.offset_of_allocated allocated
  | compress backend => exact PageTable.offset_of_allocated allocated

theorem nextOffset_of_refused {error : DuvmError}
    (refused : (DuvmBackend.allocPage backend).1 = .err error) :
    (DuvmBackend.allocPage backend).2.nextOffset = backend.nextOffset := by
  cases backend with
  | memory backend =>
      exact congrArg PageTable.nextOffset (PageTable.allocPage_of_refused refused)
  | compress backend =>
      exact congrArg PageTable.nextOffset (PageTable.allocPage_of_refused refused)

end LocalBackend

/-- A backend and the handles which callers have been given and have not freed. -/
structure Leases (codec : Lz4) where
  backend : LocalBackend codec
  held : List PageHandle

/-- A call of some caller. -/
inductive Use where
  | alloc
  | store (handle : PageHandle) (data : PageBuffer)
  | free (handle : PageHandle)

def Use.isStore : Use → Bool
  | .store _ _ => true
  | _ => false

namespace Leases

variable {codec : Lz4}

def start (backend : LocalBackend codec) : Leases codec := ⟨backend, []⟩

/-- One call; pages are stored under handles which are held. The panic of `alloc_page` ends the
run. -/
def step (leases : Leases codec) : Use → Option (Leases codec)
  | .alloc =>
      match DuvmBackend.allocPage leases.backend with
      | (.ok handle, backend) => some ⟨backend, handle :: leases.held⟩
      | (.err _, backend) => some ⟨backend, leases.held⟩
      | (.panic, _) => none
  | .store handle data =>
      if handle ∈ leases.held then
        some ⟨(DuvmBackend.storePage leases.backend handle data).2, leases.held⟩
      else none
  | .free handle =>
      some ⟨(DuvmBackend.freePage leases.backend handle).2, leases.held.filter (· ≠ handle)⟩

/-- What a call comes to. -/
inductive Stepped (leases : Leases codec) : Use → Leases codec → Prop
  | issued {handle : PageHandle}
      (allocated : (DuvmBackend.allocPage leases.backend).1 = .ok handle) :
      Stepped leases .alloc
        ⟨(DuvmBackend.allocPage leases.backend).2, handle :: leases.held⟩
  | refused {error : DuvmError} (full : (DuvmBackend.allocPage leases.backend).1 = .err error) :
      Stepped leases .alloc ⟨(DuvmBackend.allocPage leases.backend).2, leases.held⟩
  | stored {handle : PageHandle} {data : PageBuffer} (holds : handle ∈ leases.held) :
      Stepped leases (.store handle data)
        ⟨(DuvmBackend.storePage leases.backend handle data).2, leases.held⟩
  | freed {handle : PageHandle} :
      Stepped leases (.free handle)
        ⟨(DuvmBackend.freePage leases.backend handle).2, leases.held.filter (· ≠ handle)⟩

variable {use : Use} {leases : Leases codec} {backend : LocalBackend codec} {uses : List Use}

variable {next : Leases codec}

theorem stepped_of_step (stepped : leases.step use = some next) :
    leases.Stepped use next := by
  cases use with
  | alloc =>
      simp only [step] at stepped
      cases allocated : DuvmBackend.allocPage leases.backend with
      | mk result backend =>
          rw [allocated] at stepped
          have first := congrArg Prod.fst allocated
          have second := congrArg Prod.snd allocated
          simp only at first second
          cases result with
          | ok handle =>
              rw [← Option.some.inj stepped, ← second]
              exact .issued first
          | err error =>
              rw [← Option.some.inj stepped, ← second]
              exact .refused first
          | panic => cases stepped
  | store handle data =>
      simp only [step] at stepped
      split at stepped
      · next holds =>
          rw [← Option.some.inj stepped]
          exact .stored holds
      · cases stepped
  | free handle =>
      rw [← Option.some.inj stepped]
      exact .freed

/-- An allocation which succeeds puts one more handle out. -/
theorem exists_step_of_isOk (isOk : Outcome.isOk (DuvmBackend.allocPage leases.backend).1) :
    ∃ next, leases.step .alloc = some next ∧ next.held.length = leases.held.length + 1 := by
  unfold step
  cases allocated : DuvmBackend.allocPage leases.backend with
  | mk result backend =>
      rw [allocated] at isOk
      cases result with
      | ok handle => exact ⟨_, rfl, rfl⟩
      | err error => cases isOk
      | panic => cases isOk

/-- The limit is not exceeded. -/
def WithinLimit (leases : Leases codec) : Prop :=
  (DuvmBackend.capacity leases.backend).2 ≤ leases.backend.maxPages

instance (leases : Leases codec) : Decidable leases.WithinLimit :=
  inferInstanceAs (Decidable (_ ≤ _))

/-- An allocation which succeeds finds fewer handles out than pages are allowed. -/
def Reserved (leases : Leases codec) : Use → Prop
  | .alloc => Outcome.isOk (DuvmBackend.allocPage leases.backend).1 →
      leases.held.length < leases.backend.maxPages.toNat
  | .store _ _ => True
  | .free _ => True

instance (leases : Leases codec) (use : Use) : Decidable (leases.Reserved use) :=
  match use with
  | .alloc => inferInstanceAs (Decidable (_ → _))
  | .store _ _ => .isTrue trivial
  | .free _ => .isTrue trivial

/-- Every page is under a handle which is out. -/
def Covered (leases : Leases codec) : Prop :=
  ∀ slot ∈ leases.backend.occupied, slot ∈ leases.held.map PageHandle.offset

theorem Covered.length_le (covered : leases.Covered) :
    leases.backend.occupied.length ≤ leases.held.length := by
  have nodup := leases.backend.nodup_occupied
  have subset : leases.backend.occupied ⊆ leases.held.map PageHandle.offset := covered
  simpa using (nodup.subperm subset).length_le

theorem maxPages_of_step (stepped : leases.step use = some next) :
    next.backend.maxPages = leases.backend.maxPages := by
  cases stepped_of_step stepped with
  | issued allocated => exact leases.backend.maxPages_allocPage
  | refused full => exact leases.backend.maxPages_allocPage
  | stored holds => exact leases.backend.maxPages_storePage _ _
  | freed => exact leases.backend.maxPages_freePage _

theorem Covered.of_step (covered : leases.Covered) (stepped : leases.step use = some next) :
    next.Covered := by
  intro slot listed
  cases stepped_of_step stepped with
  | issued allocated =>
      rw [LocalBackend.occupied_allocPage] at listed
      exact List.mem_cons_of_mem _ (covered slot listed)
  | refused full =>
      rw [LocalBackend.occupied_allocPage] at listed
      exact covered slot listed
  | @stored handle data holds =>
      rcases (LocalBackend.mem_occupied_storePage _ _ _).mp listed with rfl | old
      · exact List.mem_map_of_mem holds
      · exact covered slot old
  | @freed handle =>
      rw [LocalBackend.occupied_freePage, leases.backend.nodup_occupied.mem_erase_iff] at listed
      rcases List.mem_map.mp (covered slot listed.2) with ⟨other, isHeld, rfl⟩
      refine List.mem_map_of_mem (List.mem_filter.mpr ⟨isHeld, ?_⟩)
      rw [decide_eq_true_eq]
      intro same
      exact listed.1 (congrArg PageHandle.offset same)

theorem length_held_of_step (within : leases.held.length ≤ leases.backend.maxPages.toNat)
    (reserved : leases.Reserved use) (stepped : leases.step use = some next) :
    next.held.length ≤ next.backend.maxPages.toNat := by
  rw [maxPages_of_step stepped]
  cases stepped_of_step stepped with
  | issued allocated => exact reserved (by rw [allocated]; rfl)
  | refused full => exact within
  | stored holds => exact within
  | freed => exact (List.length_filter_le _ _).trans within

theorem withinLimit_of_length_le
    (within : leases.backend.occupied.length ≤ leases.backend.maxPages.toNat) :
    leases.WithinLimit := by
  have bound := leases.backend.maxPages.toNat_lt
  rw [WithinLimit, LocalBackend.capacity_eq, UInt64.le_iff_toNat_le,
    UInt64.toNat_ofNat_of_lt' (within.trans_lt bound)]
  exact within

theorem covered_start (fresh : backend.Fresh) :
    (start backend).Covered := by
  intro slot listed
  rw [start, fresh.occupied_eq_nil] at listed
  cases listed

/-- No more pages than handles, no more handles than allowed. -/
def Bounded (leases : Leases codec) : Prop :=
  leases.Covered ∧ leases.held.length ≤ leases.backend.maxPages.toNat

theorem withinLimit_of_bounded (bounded : leases.Bounded) :
    leases.WithinLimit :=
  withinLimit_of_length_le (bounded.1.length_le.trans bounded.2)

theorem bounded_throughout (covered : leases.Covered)
    (within : leases.held.length ≤ leases.backend.maxPages.toNat)
    (reserved : Along step Reserved leases uses) : Throughout step Bounded leases uses := by
  refine throughout_of_along ⟨covered, within⟩ ?_ reserved
  intro current use next bounded good stepped
  exact ⟨bounded.1.of_step stepped, length_held_of_step bounded.2 good stepped⟩

/-- The limit is kept in every state, if every allocation which succeeds finds fewer than
`max_pages` handles out. -/
theorem limit_kept (fresh : backend.Fresh) (reserved : Along step Reserved (start backend) uses) :
    Throughout step WithinLimit (start backend) uses := by
  intro before leases early reached
  have bounded := bounded_throughout (covered_start fresh) (Nat.zero_le _) reserved
  exact withinLimit_of_bounded (bounded before leases early reached)

/-- Allocating, storing and freeing one page after the other. -/
theorem limit_kept_one_by_one :
    Throughout step WithinLimit (start (.compress (.new 0 1) : LocalBackend .literalLz4))
      [.alloc, .store ⟨0⟩ countingPage, .alloc, .free ⟨0⟩, .alloc, .store ⟨1⟩ countingPage] := by
  have fresh : LocalBackend.Fresh (.compress (.new 0 1) : LocalBackend .literalLz4) := ⟨0, 1, rfl⟩
  exact limit_kept fresh (by decide)

/-- Two allocations, then a page for each: the second allocation finds a handle out and no
page. -/
def twoThenStore : List Use :=
  [.alloc, .alloc, .store ⟨0⟩ .zero, .store ⟨1⟩ .zero]

/-- Both backends exceed a limit of one page when two handles are out at once. -/
theorem limit_exceeded_by_outstanding_handles :
    (∃ leases, run step (start (.memory (.new 0 1) : LocalBackend .literalLz4)) twoThenStore =
        some leases ∧ DuvmBackend.capacity leases.backend = (1, 2) ∧ ¬leases.WithinLimit) ∧
    ∃ leases, run step (start (.compress (.new 0 1) : LocalBackend .literalLz4)) twoThenStore =
        some leases ∧ DuvmBackend.capacity leases.backend = (1, 2) ∧ ¬leases.WithinLimit :=
  ⟨⟨_, rfl, rfl, by decide⟩, ⟨_, rfl, rfl, by decide⟩⟩

/-- Handles which are out are for distinct offsets which have been issued. -/
structure Issued (leases : Leases codec) : Prop where
  distinct : (leases.held.map PageHandle.offset).Nodup
  below : ∀ handle ∈ leases.held, handle.offset.toNat < leases.backend.nextOffset.toNat
  limited : leases.backend.nextOffset.toNat ≤ PageHandle.offsetLimit

theorem issued_start (fresh : backend.Fresh) :
    (start backend).Issued where
  distinct := List.nodup_nil
  below := by
    intro handle listed
    cases listed
  limited := by
    have zero : backend.nextOffset = 0 := by
      cases backend with
      | memory backend =>
          rcases fresh with ⟨backendId, maxPages, rfl⟩
          rfl
      | compress backend =>
          rcases fresh with ⟨backendId, maxPages, rfl⟩
          rfl
    rw [start, zero]
    exact Nat.zero_le _

theorem Issued.of_step (issued : leases.Issued) (stepped : leases.step use = some next) :
    next.Issued := by
  cases stepped_of_step stepped with
  | @issued handle allocated =>
      rcases LocalBackend.offset_of_allocated allocated with ⟨offset, fits, advanced⟩
      refine ⟨?_, ?_, by simp only; omega⟩
      · rw [List.map_cons, List.nodup_cons]
        refine ⟨fun listed => ?_, issued.distinct⟩
        rcases List.mem_map.mp listed with ⟨other, isHeld, same⟩
        have below := issued.below other isHeld
        rw [same, offset] at below
        exact lt_irrefl _ below
      · intro other listed
        simp only
        rcases List.mem_cons.mp listed with rfl | isHeld
        · rw [offset]
          omega
        · have below := issued.below other isHeld
          omega
  | refused full =>
      have same := LocalBackend.nextOffset_of_refused full
      refine ⟨issued.distinct, ?_, ?_⟩
      · simp only [same]
        exact issued.below
      · simp only [same]
        exact issued.limited
  | stored holds =>
      refine ⟨issued.distinct, ?_, ?_⟩
      · simp only [LocalBackend.nextOffset_storePage]
        exact issued.below
      · simp only [LocalBackend.nextOffset_storePage]
        exact issued.limited
  | freed =>
      refine ⟨?_, ?_, ?_⟩
      · exact issued.distinct.sublist (List.filter_sublist.map _)
      · intro other listed
        simp only [LocalBackend.nextOffset_freePage]
        exact issued.below other (List.mem_filter.mp listed).1
      · simp only [LocalBackend.nextOffset_freePage]
        exact issued.limited

theorem sound_of_run {after : Leases codec} (covered : leases.Covered) (issued : leases.Issued)
    (ran : run step leases uses = some after) :
    after.Covered ∧ after.Issued := by
  refine @run_invariant _ _ step (fun current : Leases codec => current.Covered ∧ current.Issued)
    leases after uses ⟨covered, issued⟩ ?_ ran
  intro current use next holds stepped
  exact ⟨holds.1.of_step stepped, holds.2.of_step stepped⟩

theorem Issued.length_le (issued : leases.Issued) :
    leases.held.length ≤ PageHandle.offsetLimit := by
  have distinct : (leases.held.map fun handle => handle.offset.toNat).Nodup := by
    have offsets := issued.distinct.map (fun _ _ => UInt64.toNat_inj.mp)
    rwa [List.map_map] at offsets
  have subset : (leases.held.map fun handle => handle.offset.toNat) ⊆
      List.range leases.backend.nextOffset.toNat := by
    intro slot listed
    rcases List.mem_map.mp listed with ⟨handle, isHeld, rfl⟩
    exact List.mem_range.mpr (issued.below handle isHeld)
  have counted := (distinct.subperm subset).length_le
  rw [List.length_map, List.length_range] at counted
  exact counted.trans issued.limited

/-- However the handles which are out are stored to, the limit is kept. -/
def Safe (leases : Leases codec) : Prop :=
  ∀ stores after, (∀ use ∈ stores, use.isStore) → run step leases stores = some after →
    after.WithinLimit

theorem run_stores (handles : List PageHandle) (subset : handles ⊆ leases.held) :
    ∃ after, run step leases (handles.map (.store · .zero)) = some after ∧
      after.held = leases.held ∧
      after.backend.maxPages = leases.backend.maxPages ∧
      (∀ slot ∈ leases.backend.occupied, slot ∈ after.backend.occupied) ∧
      ∀ handle ∈ handles, handle.offset ∈ after.backend.occupied := by
  induction handles generalizing leases with
  | nil => exact ⟨leases, rfl, rfl, rfl, fun _ listed => listed, by simp⟩
  | cons handle rest ih =>
      have holds : handle ∈ leases.held := subset List.mem_cons_self
      have stepped : leases.step (.store handle .zero) =
          some ⟨(DuvmBackend.storePage leases.backend handle .zero).2, leases.held⟩ := if_pos holds
      rcases @ih ⟨(DuvmBackend.storePage leases.backend handle .zero).2, leases.held⟩
          (fun _ listed => subset (List.mem_cons_of_mem _ listed)) with
        ⟨after, ran, held, limit, kept, stored⟩
      refine ⟨after, ?_, held, ?_, ?_, ?_⟩
      · rw [List.map_cons, run_cons_of_step _ stepped]
        exact ran
      · rw [limit]
        exact leases.backend.maxPages_storePage _ _
      · intro slot listed
        exact kept slot ((LocalBackend.mem_occupied_storePage _ _ _).mpr (.inr listed))
      · intro other listed
        rcases List.mem_cons.mp listed with rfl | later
        · exact kept _ ((LocalBackend.mem_occupied_storePage _ _ _).mpr (.inl rfl))
        · exact stored other later

theorem along_stores {stores : List Use} (onlyStores : ∀ use ∈ stores, use.isStore) :
    Along step Reserved leases stores := by
  refine along_of_forall ?_
  intro before use after middle split _
  have isStore := onlyStores use (by simp [split])
  cases use with
  | alloc => cases isStore
  | store handle data => trivial
  | free handle => trivial

/-- The limit is out of danger exactly when no more handles are out than pages are allowed. -/
theorem safe_iff (covered : leases.Covered) (issued : leases.Issued) :
    leases.Safe ↔ leases.held.length ≤ leases.backend.maxPages.toNat := by
  constructor
  · intro safe
    rcases run_stores leases.held (List.Subset.refl _) with
      ⟨after, ran, held, limit, _, stored⟩
    have bounded := safe _ after (by simp [Use.isStore]) ran
    have sound := sound_of_run covered issued ran
    have subset : leases.held.map PageHandle.offset ⊆ after.backend.occupied := by
      intro slot listed
      rcases List.mem_map.mp listed with ⟨handle, isHeld, rfl⟩
      exact stored handle isHeld
    have enough := (issued.distinct.subperm subset).length_le
    rw [List.length_map] at enough
    have few := sound.1.length_le.trans sound.2.length_le
    have limitValue : PageHandle.offsetLimit = 2 ^ 56 := rfl
    rw [WithinLimit, LocalBackend.capacity_eq, UInt64.le_iff_toNat_le,
      UInt64.toNat_ofNat_of_lt' (by rw [UInt64.size]; omega), limit] at bounded
    exact enough.trans bounded
  · intro within stores after onlyStores ran
    have kept := bounded_throughout covered within (along_stores onlyStores)
    exact withinLimit_of_bounded (kept.at_end ran)

/-- No weaker condition on the allocations will do: the limit is out of danger throughout
exactly when every allocation which succeeds finds fewer than `max_pages` handles out. -/
theorem safe_throughout_iff (fresh : backend.Fresh) :
    Throughout step Safe (start backend) uses ↔ Along step Reserved (start backend) uses := by
  have sound : ∀ {uses leases}, run step (start backend) uses = some leases →
      leases.Covered ∧ leases.Issued :=
    fun ran => sound_of_run (covered_start fresh) (issued_start fresh) ran
  constructor
  · intro safe
    refine along_of_forall ?_
    intro before use after middle split reached
    cases use with
    | alloc =>
        intro isOk
        rcases exists_step_of_isOk isOk with ⟨next, stepped, grown⟩
        have ran : run step (start backend) (before ++ [.alloc]) = some next := by
          rw [run_concat, reached, Option.bind_some, stepped]
        have early : before ++ [.alloc] <+: uses := ⟨after, by simp [split]⟩
        have few := (safe_iff (sound ran).1 (sound ran).2).mp (safe _ next early ran)
        rw [maxPages_of_step stepped, grown] at few
        exact few
    | store handle data => trivial
    | free handle => trivial
  · intro reserved before leases early reached
    have bounded := bounded_throughout (covered_start fresh) (Nat.zero_le _) reserved
    rcases sound reached with ⟨covered, issued⟩
    exact (safe_iff covered issued).mpr (bounded before leases early reached).2

end Leases

end Duvm
