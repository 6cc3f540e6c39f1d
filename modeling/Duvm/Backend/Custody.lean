import Duvm.Backend.Contract
import Duvm.Backend.Deposits
import Duvm.Backend.Rdma

/-!
# Backends as custodians of pages

The contract of a backend which may lose pages but never confuses them. The
engine makes a deposit under each of its offsets: the slot of a handle it was
given and the page it stores there. A custodian keeps the deposits apart, and a
load through the handle of a deposit returns its page or fails.

Backends which keep every page are custodians, and so is the TCP backend with
its memory server, unless the server has run out of offsets. The RDMA backend is
not. An engine may have backends of several kinds.
-/

namespace Duvm

open Function (update)

universe u v

/-- A backend which returns nothing but deposits. It does so as long as it is not worn out;
`Fit` can only be lost. -/
class CustodyBackend (Backend : Type u) extends DuvmBackend Backend where
  Fit : Backend → Prop
  Keeps : Backend → (UInt64 → Option Deposit) → Prop
  Ready : Backend → PageHandle → Prop
  free : ∀ {backend deposits} handle, Keeps backend deposits →
    Keeps (freePage backend handle).2 deposits ∧ (Fit (freePage backend handle).2 → Fit backend)
  load : ∀ {backend deposits} handle, Keeps backend deposits →
    Keeps (loadPage backend handle).2 deposits ∧
      (Fit (loadPage backend handle).2 → Fit backend ∧ ∀ data,
        (loadPage backend handle).1 = .ok data → ∀ key deposit, deposits key = some deposit →
          deposit.slot = handle.offset → data = deposit.data)
  alloc : ∀ {backend deposits} key data, Keeps backend deposits → isHealthy backend = true →
    (∀ handle, (allocPage backend).1 = .ok handle → Ready (allocPage backend).2 handle ∧
      Keeps (allocPage backend).2 (update deposits key (some ⟨handle.offset, data⟩))) ∧
    (∀ error, (allocPage backend).1 = .err error → Keeps (allocPage backend).2 deposits) ∧
    (Fit (allocPage backend).2 → Fit backend)
  store : ∀ {backend deposits handle key data}, Keeps backend deposits → Ready backend handle →
    deposits key = some ⟨handle.offset, data⟩ →
    Keeps (storePage backend handle data).2 deposits ∧
      (Fit (storePage backend handle data).2 → Fit backend)

namespace LawfulBackend

variable {Backend : Type u} [LawfulBackend Backend] {backend : Backend}
  {deposits : UInt64 → Option Deposit}

/-- The deposits are in slots of their own, and a slot holds the page of its deposit or none. -/
structure Holds (backend : Backend) (deposits : UInt64 → Option Deposit) : Prop where
  valid : Valid backend
  issued : ∀ {key deposit}, deposits key = some deposit →
    deposit.slot.toNat < (slots backend).issued
  agrees : ∀ {key deposit data}, deposits key = some deposit →
    (slots backend).page deposit.slot = some data → data = deposit.data
  apart : ∀ {left right first second}, deposits left = some first →
    deposits right = some second → first.slot = second.slot → left = right

theorem Holds.free (holds : Holds backend deposits) (handle : PageHandle) :
    Holds (DuvmBackend.freePage backend handle).2 deposits := by
  rcases LawfulBackend.free handle holds.valid with ⟨after, freed, valid, cleared⟩
  rw [freed]
  refine ⟨valid, ?_, ?_, holds.apart⟩
  · intro key deposit deposited
    rw [cleared]
    exact holds.issued deposited
  · intro key deposit data deposited held
    rw [cleared] at held
    simp only [Slots.clear, Function.update_apply] at held
    split at held
    · simp at held
    · exact holds.agrees deposited held

theorem Holds.data_of_loadPage (holds : Holds backend deposits) {handle : PageHandle}
    {data : PageBuffer} (loaded : (DuvmBackend.loadPage backend handle).1 = .ok data)
    {key : UInt64} {deposit : Deposit} (deposited : deposits key = some deposit)
    (isSlot : deposit.slot = handle.offset) : data = deposit.data := by
  rcases LawfulBackend.load handle holds.valid with ⟨found, absent⟩
  apply holds.agrees deposited
  rw [isSlot]
  cases held : (slots backend).page handle.offset with
  | none =>
      rcases absent held with ⟨error, missed⟩
      rw [missed] at loaded
      simp at loaded
  | some page =>
      rw [found page held] at loaded
      rw [Except.ok.inj loaded]

/-- A page can be put under the handle. -/
structure Accepts (backend : Backend) (handle : PageHandle) : Prop where
  room : (slots backend).used < (slots backend).total
  issued : handle.offset.toNat < (slots backend).issued
  free : (slots backend).page handle.offset = none

theorem Holds.alloc (holds : Holds backend deposits) (key : UInt64) (data : PageBuffer) :
    (∀ handle, (DuvmBackend.allocPage backend).1 = .ok handle →
      Accepts (DuvmBackend.allocPage backend).2 handle ∧
        Holds (DuvmBackend.allocPage backend).2
          (update deposits key (some ⟨handle.offset, data⟩))) ∧
      ∀ error, (DuvmBackend.allocPage backend).1 = .err error →
        Holds (DuvmBackend.allocPage backend).2 deposits := by
  rcases LawfulBackend.alloc holds.valid with
    ⟨_, error, refused⟩ | ⟨_, _, after, panicked⟩ |
      ⟨room, issued, after, allocated, valid, slot, issue⟩
  · rw [refused]
    exact ⟨by simp, fun _ _ => holds⟩
  · rw [panicked]
    exact ⟨by simp, by simp⟩
  · rw [allocated]
    refine ⟨?_, by simp⟩
    intro handle isHandle
    rw [← Outcome.ok.inj isHandle]
    have unused : ∀ page, (slots backend).page issued.offset ≠ some page := by
      intro page held
      have below := (LawfulBackend.occupied holds.valid (by rw [held]; rfl)).1
      omega
    have known : ∀ {other deposit},
        update deposits key (some ⟨issued.offset, data⟩) other = some deposit →
          other = key ∧ deposit = ⟨issued.offset, data⟩ ∨
            deposits other = some deposit ∧ deposit.slot ≠ issued.offset := by
      intro other deposit deposited
      rw [Function.update_apply] at deposited
      split at deposited
      · next same => exact Or.inl ⟨same, (Option.some.inj deposited).symm⟩
      · refine Or.inr ⟨deposited, ?_⟩
        intro same
        have below := holds.issued deposited
        rw [same] at below
        omega
    constructor
    · refine ⟨?_, ?_, ?_⟩
      · rw [issue]
        exact room
      · rw [issue, slot]
        exact Nat.lt_succ_self _
      · rw [issue]
        exact Option.eq_none_iff_forall_ne_some.mpr unused
    · refine ⟨valid, ?_, ?_, ?_⟩
      · intro other deposit deposited
        rw [issue]
        rcases known deposited with ⟨_, rfl⟩ | ⟨before, _⟩
        · rw [slot]
          exact Nat.lt_succ_self _
        · exact Nat.lt_succ_of_lt (holds.issued before)
      · intro other deposit page deposited held
        rw [issue] at held
        rcases known deposited with ⟨_, rfl⟩ | ⟨before, _⟩
        · exact absurd held (unused page)
        · exact holds.agrees before held
      · intro left right first second isFirst isSecond sameSlot
        rcases known isFirst with ⟨rfl, rfl⟩ | ⟨isFirst, firstOther⟩
        · rcases known isSecond with ⟨rfl, _⟩ | ⟨_, secondOther⟩
          · rfl
          · exact absurd sameSlot.symm secondOther
        · rcases known isSecond with ⟨_, rfl⟩ | ⟨isSecond, _⟩
          · exact absurd sameSlot firstOther
          · exact holds.apart isFirst isSecond sameSlot

theorem Holds.store (holds : Holds backend deposits) {handle : PageHandle}
    (accepts : Accepts backend handle) {key : UInt64} {data : PageBuffer}
    (deposited : deposits key = some ⟨handle.offset, data⟩) :
    Holds (DuvmBackend.storePage backend handle data).2 deposits := by
  rcases LawfulBackend.store data holds.valid accepts.room accepts.issued accepts.free with
    ⟨after, stored, valid, put⟩
  rw [stored]
  refine ⟨valid, ?_, ?_, holds.apart⟩
  · intro other deposit isDeposit
    rw [put]
    exact holds.issued isDeposit
  · intro other deposit page isDeposit held
    rw [put] at held
    simp only [Slots.put, Function.update_apply] at held
    split at held
    · next same =>
        have keys := holds.apart isDeposit deposited same
        rw [keys, deposited] at isDeposit
        rw [← Option.some.inj held, ← Option.some.inj isDeposit]
    · exact holds.agrees isDeposit held

end LawfulBackend

/-- A backend which keeps every page is a custodian, and never worn out. -/
instance {codec : Lz4} : CustodyBackend (LocalBackend codec) where
  Fit _ := True
  Keeps := LawfulBackend.Holds
  Ready := LawfulBackend.Accepts
  free handle holds := ⟨holds.free handle, fun _ => trivial⟩
  load := by
    intro backend deposits handle holds
    refine ⟨?_, fun _ => ⟨trivial, ?_⟩⟩
    · rw [LawfulBackend.loadPage_snd holds.valid]
      exact holds
    · intro data loaded key deposit deposited isSlot
      exact holds.data_of_loadPage loaded deposited isSlot
  alloc key data holds _ :=
    ⟨(holds.alloc key data).1, (holds.alloc key data).2, fun _ => trivial⟩
  store holds accepts deposited := ⟨holds.store accepts deposited, fun _ => trivial⟩

namespace TcpLink

variable {link next : TcpLink} {deposits : UInt64 → Option Deposit}

/-- What is known whatever was given out before. -/
theorem Sound.weaken {count : ℕ} (sound : link.Sound count deposits) : link.Sound 0 deposits :=
  ⟨Nat.zero_le _, sound.keeps⟩

/-- The offsets which the server has given out are counted. -/
theorem Sound.exactly (sound : link.Sound 0 deposits) :
    link.Sound link.server.granted deposits :=
  ⟨Nat.le_refl _, sound.keeps⟩

theorem granted_allocPage (link : TcpLink) :
    link.server.granted ≤ link.allocPage.2.server.granted := by
  unfold allocPage
  split
  · exact Nat.le_refl _
  · have grows := granted_withStream (link.setUsed (link.backend.pagesUsed + 1)) .alloc
      Tcp.allocReply
    revert grows
    cases (link.setUsed (link.backend.pagesUsed + 1)).withStream .alloc Tcp.allocReply with
    | mk result next =>
        intro grows
        cases result with
        | error error => exact grows
        | ok offset =>
            simp only
            split
            · exact grows
            · exact grows

end TcpLink

/-- The TCP backend is a custodian until its server runs out of offsets. -/
instance : CustodyBackend TcpLink where
  Fit link := link.server.granted ≤ 2 ^ 64
  Keeps link deposits := link.Sound 0 deposits
  Ready link _ := link.backend.conn.stream.isSome
  free := by
    intro link deposits handle sound
    have after := sound.exactly.freePage handle
    exact ⟨after.weaken, fun few => after.counted.trans few⟩
  load := by
    intro link deposits handle sound
    have after := sound.exactly.loadPage handle
    refine ⟨after.weaken, fun few => ⟨after.counted.trans few, ?_⟩⟩
    intro data loaded key deposit deposited isSlot
    exact sound.data_of_loadPage few loaded deposited isSlot
  alloc := by
    intro link deposits key data sound healthy
    rcases sound.exactly.allocPage healthy key data with ⟨given, refused⟩
    refine ⟨?_, ?_, ?_⟩
    · intro handle isHandle
      rcases given handle isHandle with ⟨isOpen, deposited⟩
      exact ⟨isOpen, deposited.weaken⟩
    · intro error isError
      exact (refused error isError).weaken
    · intro few
      exact (TcpLink.granted_allocPage link).trans few
  store := by
    intro link deposits handle key data sound isOpen deposited
    have after := sound.exactly.storePage isOpen deposited
    exact ⟨after.weaken, fun few => after.counted.trans few⟩

/-- The RDMA backend gives out slots which are in use, so nothing can be entrusted to it. -/
instance : CustodyBackend RdmaBackend where
  Fit _ := True
  Keeps _ _ := False
  Ready _ _ := False
  free _ keeps := keeps.elim
  load _ keeps := keeps.elim
  alloc _ _ keeps _ := keeps.elim
  store keeps _ _ := keeps.elim

section Sum

variable {Left : Type u} {Right : Type v} [CustodyBackend Left] [CustodyBackend Right]

/-- A backend of one of two kinds is a custodian when both kinds are. -/
instance : CustodyBackend (Left ⊕ Right) where
  Fit := Sum.elim CustodyBackend.Fit CustodyBackend.Fit
  Keeps := Sum.elim CustodyBackend.Keeps CustodyBackend.Keeps
  Ready := Sum.elim CustodyBackend.Ready CustodyBackend.Ready
  free := by
    rintro (backend | backend) deposits handle keeps
    · exact @CustodyBackend.free Left _ _ _ handle keeps
    · exact @CustodyBackend.free Right _ _ _ handle keeps
  load := by
    rintro (backend | backend) deposits handle keeps
    · exact @CustodyBackend.load Left _ _ _ handle keeps
    · exact @CustodyBackend.load Right _ _ _ handle keeps
  alloc := by
    rintro (backend | backend) deposits key data keeps healthy
    · exact @CustodyBackend.alloc Left _ _ _ key data keeps healthy
    · exact @CustodyBackend.alloc Right _ _ _ key data keeps healthy
  store := by
    rintro (backend | backend) deposits handle key data keeps ready deposited
    · exact @CustodyBackend.store Left _ _ _ _ _ _ keeps ready deposited
    · exact @CustodyBackend.store Right _ _ _ _ _ _ keeps ready deposited

end Sum

end Duvm
