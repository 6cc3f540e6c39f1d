import Duvm.Backend.Contract

/-!
# Backends whose calls may fail

What can be expected of a backend when `alloc_page`, `store_page` and `free_page` may
each return an error at any time: no call disturbs the pages of other handles, and a page
which was stored is there. `Flaky` is a lawful backend which refuses calls by a plan.
-/

namespace Duvm

universe u

/-- A call leaves the backend valid, and the pages in use where they are, some slots apart. -/
structure Spares {Backend : Type u} [DuvmBackend Backend] (Valid : Backend → Prop)
    (Live : Backend → UInt64 → Prop) (before after : Backend) (Touched : UInt64 → Prop) : Prop where
  valid : Valid after
  live : ∀ slot, ¬Touched slot → Live before slot → Live after slot
  loads : ∀ handle : PageHandle, ¬Touched handle.offset → Live before handle.offset →
    (DuvmBackend.loadPage after handle).1 = (DuvmBackend.loadPage before handle).1

namespace Spares

variable {Backend : Type u} [DuvmBackend Backend] {Valid : Backend → Prop}
  {Live : Backend → UInt64 → Prop} {before middle after : Backend} {Touched : UInt64 → Prop}

theorem trans (earlier : Spares Valid Live before middle fun _ => False)
    (later : Spares Valid Live middle after Touched) : Spares Valid Live before after Touched where
  valid := later.valid
  live := fun slot untouched live => later.live slot untouched (earlier.live slot id live)
  loads := fun handle untouched live =>
    (later.loads handle untouched (earlier.live _ id live)).trans (earlier.loads handle id live)

/-- Where no page was, none is disturbed. -/
theorem of_not_live {slot : UInt64} (spares : Spares Valid Live before after (· = slot))
    (free : ¬Live before slot) : Spares Valid Live before after fun _ => False where
  valid := spares.valid
  live := by
    intro other _ live
    apply spares.live other _ live
    rintro rfl
    exact free live
  loads := by
    intro handle _ live
    apply spares.loads handle _ live
    intro same
    exact free (same ▸ live)

end Spares

/-- A backend whose calls may fail; `Live` are the slots with a page. -/
class FallibleBackend (Backend : Type u) extends DuvmBackend Backend where
  Valid : Backend → Prop
  Live : Backend → UInt64 → Prop
  denied : ∀ {backend after error}, Valid backend → allocPage backend = (.err error, after) →
    Spares Valid Live backend after fun _ => False
  placed : ∀ {backend issued after handle data}, Valid backend →
    allocPage backend = (.ok handle, issued) → storePage issued handle data = (.ok (), after) →
    ¬Live backend handle.offset ∧ Live after handle.offset ∧
      Spares Valid Live backend after fun _ => False
  returned : ∀ {backend issued failed handle data error}, Valid backend →
    allocPage backend = (.ok handle, issued) →
    storePage issued handle data = (.error error, failed) →
    Spares Valid Live backend (freePage failed handle).2 fun _ => False
  freed : ∀ {backend} handle, Valid backend →
    Spares Valid Live backend (freePage backend handle).2 fun slot => slot = handle.offset
  asked : ∀ {backend} handle, Valid backend →
    Spares Valid Live backend (loadPage backend handle).2 fun _ => False

/-- A backend with the fates of the calls to come; a call which is to fail is not carried out. -/
structure Flaky (Backend : Type u) where
  backend : Backend
  faults : List Bool

namespace Flaky

variable {Backend : Type u}

/-- The next call, which fails if that is its fate. -/
def attempt {Result : Type} (flaky : Flaky Backend) (refused : Result)
    (call : Backend → Result × Backend) : Result × Flaky Backend :=
  match flaky.faults with
  | true :: later => (refused, { flaky with faults := later })
  | faults => ((call flaky.backend).1, ⟨(call flaky.backend).2, faults.tail⟩)

instance [DuvmBackend Backend] : DuvmBackend (Flaky Backend) where
  tier flaky := DuvmBackend.tier flaky.backend
  allocPage flaky := flaky.attempt (.err .io) DuvmBackend.allocPage
  freePage flaky handle := flaky.attempt (.error .io) fun backend =>
    DuvmBackend.freePage backend handle
  storePage flaky handle data := flaky.attempt (.error .io) fun backend =>
    DuvmBackend.storePage backend handle data
  loadPage flaky handle :=
    ((DuvmBackend.loadPage flaky.backend handle).1,
      { flaky with backend := (DuvmBackend.loadPage flaky.backend handle).2 })
  capacity flaky := DuvmBackend.capacity flaky.backend
  isHealthy flaky := DuvmBackend.isHealthy flaky.backend

theorem attempt_cases {Result : Type} (flaky : Flaky Backend) (refused : Result)
    (call : Backend → Result × Backend) :
    ((flaky.attempt refused call).1 = refused ∧
      (flaky.attempt refused call).2.backend = flaky.backend) ∨
    ((flaky.attempt refused call).1 = (call flaky.backend).1 ∧
      (flaky.attempt refused call).2.backend = (call flaky.backend).2) := by
  unfold attempt
  split
  · exact Or.inl ⟨rfl, rfl⟩
  · exact Or.inr ⟨rfl, rfl⟩

variable [LawfulBackend Backend]

def Live (flaky : Flaky Backend) (slot : UInt64) : Prop :=
  ((LawfulBackend.slots flaky.backend).page slot).isSome

def Valid (flaky : Flaky Backend) : Prop := LawfulBackend.Valid flaky.backend

theorem spares_of_page_eq {before after : Flaky Backend} {next : Backend}
    {Touched : UInt64 → Prop} (isNext : after.backend = next) (valid : before.Valid)
    (stillValid : LawfulBackend.Valid next)
    (same : ∀ slot, ¬Touched slot →
      (LawfulBackend.slots next).page slot = (LawfulBackend.slots before.backend).page slot) :
    Spares Valid Live before after Touched := by
  subst isNext
  refine ⟨stillValid, ?_, ?_⟩
  · intro slot untouched live
    rw [Live, same slot untouched]
    exact live
  · intro handle untouched live
    rcases Option.isSome_iff_exists.mp live with ⟨page, found⟩
    have loadedBefore := (LawfulBackend.load handle valid).1 page found
    have loadedAfter := (LawfulBackend.load handle stillValid).1 page
      ((same handle.offset untouched).trans found)
    change (DuvmBackend.loadPage after.backend handle).1 =
      (DuvmBackend.loadPage before.backend handle).1
    rw [loadedBefore, loadedAfter]

variable {flaky : Flaky Backend} {handle : PageHandle}

/-- A handle is issued as by the backend itself. -/
theorem issued_of_alloc {issued : Flaky Backend} (valid : flaky.Valid)
    (allocated : DuvmBackend.allocPage flaky = (.ok handle, issued)) :
    issued.Valid ∧
      (LawfulBackend.slots flaky.backend).used < (LawfulBackend.slots flaky.backend).total ∧
      handle.offset.toNat = (LawfulBackend.slots flaky.backend).issued ∧
      LawfulBackend.slots issued.backend = (LawfulBackend.slots flaky.backend).issue := by
  have fate := attempt_cases flaky (.err .io) DuvmBackend.allocPage
  change flaky.attempt (.err .io) DuvmBackend.allocPage = (.ok handle, issued) at allocated
  rw [allocated] at fate
  rcases fate with ⟨refused, _⟩ | ⟨result, after⟩
  · cases refused
  · have shape : DuvmBackend.allocPage flaky.backend = (.ok handle, issued.backend) :=
      (Prod.ext result after).symm
    rcases LawfulBackend.alloc valid with
      ⟨_, _, refused⟩ | ⟨_, _, _, panicked⟩ |
      ⟨room, issuedHandle, next, allocates, stillValid, slot, issue⟩
    · rw [shape] at refused
      cases refused
    · rw [shape] at panicked
      cases panicked
    · rw [shape] at allocates
      cases allocates
      exact ⟨stillValid, room, slot, issue⟩

/-- A refusal leaves the pages as they are. -/
theorem slots_of_refused {after : Flaky Backend} {error : DuvmError} (valid : flaky.Valid)
    (refused : DuvmBackend.allocPage flaky = (.err error, after)) :
    after.backend = flaky.backend := by
  have fate := attempt_cases flaky (.err .io) DuvmBackend.allocPage
  change flaky.attempt (.err .io) DuvmBackend.allocPage = (.err error, after) at refused
  rw [refused] at fate
  rcases fate with ⟨_, same⟩ | ⟨result, same⟩
  · exact same
  · have shape : DuvmBackend.allocPage flaky.backend = (.err error, after.backend) :=
      (Prod.ext result same).symm
    rcases LawfulBackend.alloc valid with
      ⟨_, _, refuses⟩ | ⟨_, _, _, panicked⟩ | ⟨_, _, _, allocates, _⟩
    · rw [shape] at refuses
      exact congrArg Prod.snd refuses
    · rw [shape] at panicked
      cases panicked
    · rw [shape] at allocates
      cases allocates

theorem spares_freePage (handle : PageHandle) (valid : flaky.Valid) :
    Spares Valid Live flaky (DuvmBackend.freePage flaky handle).2
      fun slot => slot = handle.offset := by
  rcases LawfulBackend.free handle valid with ⟨next, freed, stillValid, cleared⟩
  have fate := attempt_cases flaky (.error .io) fun backend =>
    DuvmBackend.freePage backend handle
  rw [freed] at fate
  rcases fate with ⟨_, same⟩ | ⟨_, isNext⟩
  · exact spares_of_page_eq same valid valid fun _ _ => rfl
  · refine spares_of_page_eq isNext valid stillValid ?_
    intro slot untouched
    rw [cleared]
    exact Function.update_of_ne untouched _ _

/-- A handle which has just been issued stands for a free slot. -/
theorem not_live_of_issued (valid : flaky.Valid)
    (slot : handle.offset.toNat = (LawfulBackend.slots flaky.backend).issued) :
    ¬flaky.Live handle.offset := by
  intro occupied
  have below := (LawfulBackend.occupied valid occupied).1
  omega

/-- What becomes of a page which is stored through a handle just issued. -/
theorem stored_of_issued {issued after : Flaky Backend} {data : PageBuffer}
    {result : Except DuvmError Unit} (valid : flaky.Valid)
    (allocated : DuvmBackend.allocPage flaky = (.ok handle, issued))
    (stored : DuvmBackend.storePage issued handle data = (result, after)) :
    (result = .error .io ∧ after.backend = issued.backend) ∨
      (result = .ok () ∧ after.Valid ∧ LawfulBackend.slots after.backend =
        (LawfulBackend.slots flaky.backend).issue.put handle.offset data) := by
  rcases issued_of_alloc valid allocated with ⟨issuedValid, room, slot, issue⟩
  have free := not_live_of_issued valid slot
  have stillRoom : (LawfulBackend.slots issued.backend).used <
      (LawfulBackend.slots issued.backend).total := by
    rw [issue]
    exact room
  have wasIssued : handle.offset.toNat < (LawfulBackend.slots issued.backend).issued := by
    rw [issue, slot]
    exact Nat.lt_succ_self _
  have stillFree : (LawfulBackend.slots issued.backend).page handle.offset = none := by
    rw [issue]
    exact Option.not_isSome_iff_eq_none.mp free
  rcases LawfulBackend.store data issuedValid stillRoom wasIssued stillFree with
    ⟨next, stores, stillValid, put⟩
  have fate := attempt_cases issued (.error .io) fun backend =>
    DuvmBackend.storePage backend handle data
  change issued.attempt (.error .io) _ = (result, after) at stored
  rw [stored, stores] at fate
  rcases fate with ⟨refused, same⟩ | ⟨done, isNext⟩
  · exact Or.inl ⟨refused, same⟩
  · have isAfter : after.backend = next := isNext
    refine Or.inr ⟨done, ?_, ?_⟩
    · rw [Valid, isAfter]
      exact stillValid
    · rw [isAfter, put, issue]

instance : FallibleBackend (Flaky Backend) where
  Valid := Valid
  Live := Live
  denied := by
    intro flaky after error valid refused
    exact spares_of_page_eq (slots_of_refused valid refused) valid valid fun _ _ => rfl
  placed := by
    intro flaky issued after handle data valid allocated stored
    rcases issued_of_alloc valid allocated with ⟨_, _, slot, _⟩
    have free := not_live_of_issued valid slot
    rcases stored_of_issued valid allocated stored with ⟨refused, _⟩ | ⟨_, stillValid, put⟩
    · cases refused
    · refine ⟨free, ?_, Spares.of_not_live (spares_of_page_eq rfl valid stillValid ?_) free⟩
      · rw [Live, put]
        simp [Slots.put]
      · intro other untouched
        rw [put]
        exact Function.update_of_ne untouched _ _
  returned := by
    intro flaky issued failed handle data error valid allocated stored
    rcases issued_of_alloc valid allocated with ⟨issuedValid, _, slot, issue⟩
    have free := not_live_of_issued valid slot
    rcases stored_of_issued valid allocated stored with ⟨_, same⟩ | ⟨done, _⟩
    · have refused : Spares Valid Live flaky failed fun _ => False :=
        spares_of_page_eq same valid issuedValid fun _ _ => by rw [issue]; rfl
      exact (refused.trans (spares_freePage handle refused.valid)).of_not_live free
    · cases done
  freed := fun handle valid => spares_freePage handle valid
  asked := by
    intro flaky handle valid
    refine spares_of_page_eq ?_ valid valid fun _ _ => rfl
    change (DuvmBackend.loadPage flaky.backend handle).2 = flaky.backend
    rcases LawfulBackend.load handle valid with ⟨found, absent⟩
    cases isPage : (LawfulBackend.slots flaky.backend).page handle.offset with
    | some page => rw [found page isPage]
    | none =>
        rcases absent isPage with ⟨error, failed⟩
        rw [failed]

end Flaky

end Duvm
