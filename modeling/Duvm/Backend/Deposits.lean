import Duvm.Backend.Tcp

/-!
# What a memory server keeps for its client

A client of the memory server counts on its deposits: for an offset which it was
given, the page which it has stored there or is about to store there. As long as
the server has not given out an offset twice, nothing but that page can be found
at the offset.

A restarted server holds nothing, and it stays that way: it answers a request
with success only if it is asked for a new offset, or asked to store a page, and
the backend does neither on a stream which it opens for the request.
-/

namespace Duvm

open Function (update)
open Memserver (PageStore)
open Tcp (Operation allocReply storeReply loadReply freeReply)

universe u

structure Deposit where
  slot : UInt64
  data : PageBuffer

namespace MemoryServer

variable {Key : Type u} {deposits : Key → Option Deposit} {server next : MemoryServer}

/-- The page is at the offset, or a request which puts it there is still to be served. -/
def MayHold (server : MemoryServer) (slot : UInt64) (data : PageBuffer) : Prop :=
  server.store.pages.lookup slot = some data ∨
    ∃ handle, handle.offset = slot ∧ Operation.store handle data ∈ server.stragglers

/-- The deposits are at different offsets, nothing else can be found there, and nothing at all
on a restarted server. -/
structure Keeps (server : MemoryServer) (deposits : Key → Option Deposit) : Prop where
  counter : server.lifetime = 0 → server.store.nextOffset = UInt64.ofNat server.granted
  restarted : server.lifetime ≠ 0 → ∀ slot data, ¬server.MayHold slot data
  bounded : ∀ {slot data}, server.MayHold slot data → slot.toNat < server.granted
  issued : ∀ {key deposit}, deposits key = some deposit → deposit.slot.toNat < server.granted
  agrees : ∀ {key deposit data}, deposits key = some deposit →
    server.MayHold deposit.slot data → data = deposit.data
  apart : ∀ {left right first second}, deposits left = some first → deposits right = some second →
    first.slot = second.slot → left = right

theorem keeps_start (maxPages : UInt64) : (start maxPages).Keeps fun _ : Key => none where
  counter _ := rfl
  restarted started := absurd rfl started
  bounded := by
    intro slot data held
    simp [MayHold, start, PageStore.new] at held
  issued := by simp
  agrees := by simp
  apart := by simp

/-- A server which goes on within its lifetime, and on which at most deposited pages turn up. -/
theorem Keeps.follow (keeps : server.Keeps deposits)
    (sameLifetime : next.lifetime = server.lifetime) (grows : server.granted ≤ next.granted)
    (counter : next.lifetime = 0 → next.store.nextOffset = UInt64.ofNat next.granted)
    (known : ∀ slot data, next.MayHold slot data → server.MayHold slot data ∨
      server.lifetime = 0 ∧ ∃ key, deposits key = some ⟨slot, data⟩) : next.Keeps deposits where
  counter := counter
  restarted := by
    intro restarted slot data held
    rw [sameLifetime] at restarted
    rcases known slot data held with before | ⟨first, _⟩
    · exact keeps.restarted restarted slot data before
    · exact restarted first
  bounded := by
    intro slot data held
    rcases known slot data held with before | ⟨_, key, deposited⟩
    · exact Nat.lt_of_lt_of_le (keeps.bounded before) grows
    · exact Nat.lt_of_lt_of_le (keeps.issued deposited) grows
  issued := by
    intro key deposit deposited
    exact Nat.lt_of_lt_of_le (keeps.issued deposited) grows
  agrees := by
    intro key deposit data deposited held
    rcases known deposit.slot data held with before | ⟨_, other, same⟩
    · exact keeps.agrees deposited before
    · have keys := keeps.apart deposited same rfl
      rw [keys, same] at deposited
      rw [← Option.some.inj deposited]
  apart := keeps.apart

theorem Keeps.restart (keeps : server.Keeps deposits) : server.restart.Keeps deposits := by
  have nothing : ∀ slot data, ¬server.restart.MayHold slot data := by
    intro slot data held
    simp [MayHold, MemoryServer.restart, PageStore.new] at held
  refine ⟨?_, fun _ => nothing, ?_, keeps.issued, ?_, keeps.apart⟩
  · intro first
    simp [MemoryServer.restart] at first
  · intro slot data held
    exact absurd held (nothing slot data)
  · intro key deposit data _ held
    exact absurd held (nothing _ data)

variable {data : PageBuffer} {operation : Operation} {slot : UInt64}

/-- Only a `STORE` puts a page into the store. -/
theorem lookup_after {store : PageStore}
    (found : (operation.after store).pages.lookup slot = some data) :
    store.pages.lookup slot = some data ∨
      ∃ handle, handle.offset = slot ∧ operation = .store handle data := by
  cases operation with
  | alloc =>
      simp only [Operation.after, PageStore.allocOffset] at found
      split at found
      · exact Or.inl found
      · exact Or.inl found
  | store handle page =>
      simp only [Operation.after, PageStore.store] at found
      split at found
      · exact Or.inl found
      · rw [HashMap.lookup_insert_eq_ite] at found
        split at found
        · next same =>
            rw [Option.some.inj found]
            exact Or.inr ⟨handle, same.symm, rfl⟩
        · exact Or.inl found
  | load handle => exact Or.inl found
  | free handle =>
      simp only [Operation.after, PageStore.free] at found
      split at found
      · rw [HashMap.lookup_erase_eq_ite] at found
        split at found
        · simp at found
        · exact Or.inl found
      · exact Or.inl found

/-- The counter of the store advances with every offset given out. -/
theorem nextOffset_after (store : PageStore) (operation : Operation) :
    (operation.after store).nextOffset =
      store.nextOffset + UInt64.ofNat (grants store operation) := by
  cases operation with
  | alloc =>
      simp only [Operation.after, grants, PageStore.allocOffset]
      split
      · simp
      · simp
  | store handle data =>
      simp only [Operation.after, grants, PageStore.store]
      split
      · simp
      · simp
  | load handle => simp [Operation.after, grants]
  | free handle =>
      simp only [Operation.after, grants, PageStore.free]
      split
      · simp
      · simp

theorem mayHold_serve (held : (server.serve operation).MayHold slot data) :
    server.MayHold slot data ∨ ∃ handle, handle.offset = slot ∧ operation = .store handle data := by
  rcases held with stored | straggler
  · rcases lookup_after stored with before | served
    · exact Or.inl (Or.inl before)
    · exact Or.inr served
  · exact Or.inl (Or.inr straggler)

theorem mayHold_delay (held : (server.delay operation).MayHold slot data) :
    server.MayHold slot data ∨ ∃ handle, handle.offset = slot ∧ operation = .store handle data := by
  rcases held with stored | ⟨handle, same, straggler⟩
  · exact Or.inl (Or.inl stored)
  · rcases List.mem_append.mp straggler with before | new
    · exact Or.inl (Or.inr ⟨handle, same, before⟩)
    · exact Or.inr ⟨handle, same, (List.mem_singleton.mp new).symm⟩

theorem counter_serve (operation : Operation)
    (counter : server.lifetime = 0 → server.store.nextOffset = UInt64.ofNat server.granted) :
    (server.serve operation).lifetime = 0 → (server.serve operation).store.nextOffset =
      UInt64.ofNat (server.serve operation).granted := by
  intro first
  simp only [serve]
  rw [nextOffset_after, counter first, UInt64.ofNat_add]

theorem Keeps.serveStraggler (keeps : server.Keeps deposits) (index : ℕ) :
    (server.serveStraggler index).Keeps deposits := by
  unfold MemoryServer.serveStraggler
  cases listed : server.stragglers[index]? with
  | none => exact keeps
  | some operation =>
      refine keeps.follow rfl (Nat.le_add_right _ _) (counter_serve operation keeps.counter) ?_
      intro slot data held
      left
      rcases mayHold_serve held with before | ⟨handle, same, isStore⟩
      · rcases before with stored | ⟨handle, same, straggler⟩
        · exact Or.inl stored
        · exact Or.inr ⟨handle, same, List.mem_of_mem_eraseIdx straggler⟩
      · right
        refine ⟨handle, same, ?_⟩
        rw [← isStore]
        exact List.mem_of_getElem? listed

theorem Keeps.incidents (keeps : server.Keeps deposits) (incidents : List Incident) :
    (incidents.foldl incident server).Keeps deposits := by
  induction incidents generalizing server with
  | nil => exact keeps
  | cons incident rest ih =>
      apply ih
      cases incident with
      | restart => exact keeps.restart
      | straggler index => exact keeps.serveStraggler index

theorem granted_incidents (incidents : List Incident) :
    server.granted ≤ (incidents.foldl incident server).granted := by
  induction incidents generalizing server with
  | nil => exact Nat.le_refl _
  | cons incident rest ih =>
      refine Nat.le_trans ?_ ih
      cases incident with
      | restart => exact Nat.le_refl _
      | straggler index =>
          simp only [MemoryServer.incident, MemoryServer.serveStraggler]
          split
          · exact Nat.le_refl _
          · exact Nat.le_add_right _ _

section Exchanged

variable {Answer : Type} {stream : Option ℕ} {operation : Operation}
  {reply : PageStore → Except DuvmError Answer} {result : Except DuvmError Answer}

theorem granted_exchanged
    (exchanged : TcpLink.Exchanged server stream operation reply result next) :
    server.granted ≤ next.granted := by
  cases exchanged with
  | lost => exact Nat.le_refl _
  | answered live => exact Nat.le_add_right _ _
  | replyLost live => exact Nat.le_add_right _ _
  | delayed live => exact Nat.le_refl _

/-- A request, unless it is a `STORE` of something else than a deposit or on a new stream. -/
theorem Keeps.exchanged (keeps : server.Keeps deposits)
    (exchanged : TcpLink.Exchanged server stream operation reply result next)
    (deposited : ∀ handle data, operation = .store handle data →
      stream = some 0 ∧ ∃ key, deposits key = some ⟨handle.offset, data⟩) :
    next.Keeps deposits := by
  have known : (∀ opened, stream = some opened → opened = server.lifetime) → ∀ slot data,
      (∃ handle, handle.offset = slot ∧ operation = .store handle data) →
        server.lifetime = 0 ∧ ∃ key, deposits key = some ⟨slot, data⟩ := by
    rintro live slot data ⟨handle, rfl, rfl⟩
    rcases deposited handle data rfl with ⟨isOpen, isDeposit⟩
    exact ⟨(live 0 isOpen).symm, isDeposit⟩
  have served : (∀ opened, stream = some opened → opened = server.lifetime) →
      (server.serve operation).Keeps deposits := by
    intro live
    refine keeps.follow rfl (Nat.le_add_right _ _) (counter_serve operation keeps.counter) ?_
    intro slot data held
    exact (mayHold_serve held).imp id (known live slot data)
  cases exchanged with
  | lost => exact keeps
  | answered live => exact served live
  | replyLost live => exact served live
  | delayed live =>
      refine keeps.follow rfl (Nat.le_refl _) keeps.counter ?_
      intro slot data held
      exact (mayHold_delay held).imp id (known live slot data)

end Exchanged

/-- A new deposit at an offset which was just given out. -/
theorem Keeps.deposit [DecidableEq Key] (keeps : next.Keeps deposits) (key : Key)
    (data : PageBuffer) (given : slot.toNat < next.granted)
    (empty : ∀ page, ¬next.MayHold slot page)
    (free : ∀ other deposit, deposits other = some deposit → deposit.slot ≠ slot) :
    next.Keeps (update deposits key (some ⟨slot, data⟩)) := by
  have cases : ∀ {other deposit}, update deposits key (some ⟨slot, data⟩) other = some deposit →
      other = key ∧ deposit = ⟨slot, data⟩ ∨ deposits other = some deposit := by
    intro other deposit deposited
    rw [Function.update_apply] at deposited
    split at deposited
    · next same => exact Or.inl ⟨same, (Option.some.inj deposited).symm⟩
    · exact Or.inr deposited
  refine ⟨keeps.counter, keeps.restarted, keeps.bounded, ?_, ?_, ?_⟩
  · intro other deposit deposited
    rcases cases deposited with ⟨_, rfl⟩ | before
    · exact given
    · exact keeps.issued before
  · intro other deposit page deposited held
    rcases cases deposited with ⟨_, rfl⟩ | before
    · exact absurd held (empty page)
    · exact keeps.agrees before held
  · intro left right first second isFirst isSecond sameSlot
    rcases cases isFirst with ⟨rfl, rfl⟩ | isFirst
    · rcases cases isSecond with ⟨rfl, _⟩ | isSecond
      · rfl
      · exact absurd sameSlot.symm (free right second isSecond)
    · rcases cases isSecond with ⟨_, rfl⟩ | isSecond
      · exact absurd sameSlot (free left first isFirst)
      · exact keeps.apart isFirst isSecond sameSlot

/-- An `ALLOC` which is answered with an offset makes room for a deposit. -/
theorem Keeps.alloc [DecidableEq Key] {offset : UInt64} (keeps : server.Keeps deposits)
    (exchanged : TcpLink.Exchanged server (some 0) .alloc allocReply (.ok offset) next)
    (few : next.granted ≤ 2 ^ 64) (key : Key) (data : PageBuffer) :
    next.Keeps (update deposits key (some ⟨offset, data⟩)) := by
  have follows : next.Keeps deposits := keeps.exchanged exchanged (by simp)
  generalize answer : Except.ok offset = result at exchanged
  cases exchanged with
  | lost => simp at answer
  | replyLost live => simp at answer
  | delayed live => simp at answer
  | answered live =>
      have room : server.store.used < server.store.maxPages := by
        apply UInt64.not_le.mp
        intro full
        rw [allocReply, PageStore.allocOffset_of_le full] at answer
        simp at answer
      have allocated := PageStore.allocOffset_of_lt room
      have counted : (server.serve .alloc).granted = server.granted + 1 := by
        simp [serve, grants, allocated]
      have isNext : offset.toNat = server.granted := by
        rw [allocReply, allocated] at answer
        rw [Except.ok.inj answer, keeps.counter (live 0 rfl).symm, UInt64.toNat_ofNat']
        omega
      apply follows.deposit key data
      · omega
      · intro page held
        rcases mayHold_serve held with before | ⟨handle, _, isStore⟩
        · have below := keeps.bounded before
          omega
        · simp at isStore
      · rintro other deposit deposited rfl
        have below := keeps.issued deposited
        omega

/-- A deposit is read back. -/
theorem Keeps.load {stream : Option ℕ} {handle : PageHandle} {key : Key} {deposit : Deposit}
    (keeps : server.Keeps deposits)
    (exchanged : TcpLink.Exchanged server stream (.load handle) (loadReply · handle) (.ok data)
      next)
    (deposited : deposits key = some deposit) (isSlot : deposit.slot = handle.offset) :
    data = deposit.data := by
  generalize answer : Except.ok data = result at exchanged
  cases exchanged with
  | lost => simp at answer
  | replyLost live => simp at answer
  | delayed live => simp at answer
  | answered live =>
      apply keeps.agrees deposited
      left
      rw [isSlot]
      simp only [loadReply, PageStore.load] at answer
      split at answer
      · next found =>
          rw [Except.ok.inj answer]
          exact found
      · simp at answer

end MemoryServer

namespace TcpLink

variable {Key : Type u} {deposits : Key → Option Deposit} {link next : TcpLink}

/-- The server keeps the deposits, and the backend has no stream to a restarted server. -/
structure Keeps (link : TcpLink) (deposits : Key → Option Deposit) : Prop where
  server : link.server.Keeps deposits
  stream : ∀ opened, link.backend.conn.stream = some opened → opened = 0

/-- All is well unless an offset has been given out twice. At least `count` of them have been
given out. -/
structure Sound (link : TcpLink) (count : ℕ) (deposits : Key → Option Deposit) : Prop where
  counted : count ≤ link.server.granted
  keeps : link.server.granted ≤ 2 ^ 64 → link.Keeps deposits

theorem Keeps.upcoming (keeps : link.Keeps deposits) : link.upcoming.Keeps deposits :=
  keeps.server.incidents link.fate.incidents

theorem granted_withStream {Answer : Type} (link : TcpLink) (operation : Operation)
    (reply : PageStore → Except DuvmError Answer) :
    link.server.granted ≤ (link.withStream operation reply).2.server.granted := by
  have before : link.server.granted ≤ link.upcoming.granted :=
    MemoryServer.granted_incidents link.fate.incidents
  have after := MemoryServer.granted_exchanged (withStream_spec link operation reply).1
  omega

/-- A use of the connection. Unless the stream was there before, a success needs a page, and a
restarted server has none. -/
theorem Keeps.withStream {Answer : Type} {operation : Operation}
    {reply : PageStore → Except DuvmError Answer} (keeps : link.Keeps deposits)
    (deposited : ∀ handle data, operation = .store handle data →
      link.backend.conn.stream.isSome ∧ ∃ key, deposits key = some ⟨handle.offset, data⟩)
    (needsPage : link.backend.conn.stream.isSome ∨
      ∀ store answer, reply store = .ok answer → ∃ slot data, store.pages.lookup slot = some data) :
    (link.withStream operation reply).2.Keeps deposits := by
  have first : link.backend.conn.stream.isSome → link.backend.conn.stream = some 0 := by
    intro isOpen
    rcases Option.isSome_iff_exists.mp isOpen with ⟨opened, found⟩
    rw [found, keeps.stream opened found]
  rcases withStream_spec link operation reply with ⟨exchanged, kept, _⟩
  constructor
  · apply keeps.upcoming.exchanged exchanged
    intro handle data isStore
    exact (deposited handle data isStore).imp first id
  · intro opened isOpen
    rcases kept opened isOpen with ⟨same, live, answer, replied⟩
    rcases needsPage with wasOpen | needsPage
    · exact (same 0 (first wasOpen)).symm
    · rcases needsPage link.upcoming.store answer replied with ⟨slot, data, found⟩
      by_contra restarted
      rw [live] at restarted
      exact keeps.upcoming.restarted restarted slot data (Or.inl found)

variable {handle : PageHandle} {count : ℕ}

theorem needsPage_free {store : PageStore} {answer : Unit}
    (freed : freeReply store handle = .ok answer) :
    ∃ slot data, store.pages.lookup slot = some data := by
  simp only [freeReply, PageStore.free] at freed
  split at freed
  · next present => exact ⟨handle.offset, HashMap.exists_lookup_of_mem present⟩
  · simp at freed

theorem needsPage_load {store : PageStore} {answer : PageBuffer}
    (loaded : loadReply store handle = .ok answer) :
    ∃ slot data, store.pages.lookup slot = some data := by
  simp only [loadReply, PageStore.load] at loaded
  split at loaded
  · next data found => exact ⟨handle.offset, data, found⟩
  · simp at loaded

theorem Sound.withStream {Answer : Type} {operation : Operation}
    {reply : PageStore → Except DuvmError Answer} (sound : link.Sound count deposits)
    (deposited : ∀ handle data, operation = .store handle data →
      link.backend.conn.stream.isSome ∧ ∃ key, deposits key = some ⟨handle.offset, data⟩)
    (needsPage : link.backend.conn.stream.isSome ∨
      ∀ store answer, reply store = .ok answer → ∃ slot data, store.pages.lookup slot = some data) :
    (link.withStream operation reply).2.Sound count deposits := by
  have grows := granted_withStream link operation reply
  refine ⟨sound.counted.trans grows, fun few => ?_⟩
  exact (sound.keeps (grows.trans few)).withStream deposited needsPage

theorem Sound.setUsed (sound : link.Sound count deposits) (pagesUsed : UInt64) :
    (link.setUsed pagesUsed).Sound count deposits :=
  ⟨sound.counted, fun few => ⟨(sound.keeps few).server, (sound.keeps few).stream⟩⟩

theorem Sound.freePage (sound : link.Sound count deposits) (handle : PageHandle) :
    (link.freePage handle).2.Sound count deposits := by
  have used : (link.withStream (.free handle) (freeReply · handle)).2.Sound count deposits :=
    sound.withStream (by simp) (Or.inr fun _ _ => needsPage_free)
  unfold TcpLink.freePage
  revert used
  cases link.withStream (.free handle) (freeReply · handle) with
  | mk result next =>
      intro used
      cases result with
      | error error => exact used
      | ok answer => exact used.setUsed _

theorem Sound.loadPage (sound : link.Sound count deposits) (handle : PageHandle) :
    (link.loadPage handle).2.Sound count deposits :=
  sound.withStream (by simp) (Or.inr fun _ _ => needsPage_load)

theorem Sound.storePage (sound : link.Sound count deposits) {data : PageBuffer} {key : Key}
    (isOpen : link.backend.conn.stream.isSome)
    (deposited : deposits key = some ⟨handle.offset, data⟩) :
    (link.storePage handle data).2.Sound count deposits := by
  apply sound.withStream
  · intro other page isStore
    rcases Operation.store.inj isStore with ⟨rfl, rfl⟩
    exact ⟨isOpen, key, deposited⟩
  · exact Or.inl isOpen

/-- A deposit is read back. -/
theorem Sound.data_of_loadPage (sound : link.Sound count deposits) {data : PageBuffer} {key : Key}
    {deposit : Deposit} (few : (link.loadPage handle).2.server.granted ≤ 2 ^ 64)
    (loaded : (link.loadPage handle).1 = .ok data) (deposited : deposits key = some deposit)
    (isSlot : deposit.slot = handle.offset) : data = deposit.data := by
  have exchanged : Exchanged link.upcoming link.backend.conn.stream (.load handle)
      (loadReply · handle) (link.loadPage handle).1 (link.loadPage handle).2.server :=
    (withStream_spec link _ _).1
  rw [loaded] at exchanged
  have keeps := sound.keeps ((granted_withStream _ _ _).trans few)
  exact keeps.upcoming.load exchanged deposited isSlot

/-- What `alloc_page` leaves behind: room for a deposit, or what there was. -/
theorem Sound.allocPage [DecidableEq Key] (sound : link.Sound count deposits)
    (isOpen : link.backend.conn.stream.isSome) (key : Key) (data : PageBuffer) :
    (∀ handle, link.allocPage.1 = .ok handle → link.allocPage.2.backend.conn.stream.isSome ∧
      link.allocPage.2.Sound count (update deposits key (some ⟨handle.offset, data⟩))) ∧
    ∀ error, link.allocPage.1 = .err error → link.allocPage.2.Sound count deposits := by
  unfold TcpLink.allocPage
  split
  · exact ⟨by simp, fun _ _ => sound⟩
  · have busySound := sound.setUsed (link.backend.pagesUsed + 1)
    have busyOpen : (link.setUsed (link.backend.pagesUsed + 1)).backend.conn.stream.isSome := isOpen
    generalize link.setUsed (link.backend.pagesUsed + 1) = busy at busySound busyOpen
    have used : (busy.withStream .alloc allocReply).2.Sound count deposits :=
      busySound.withStream (by simp) (Or.inl busyOpen)
    have counted := granted_withStream busy .alloc allocReply
    rcases withStream_spec busy .alloc allocReply with ⟨exchanged, _, stays⟩
    revert exchanged stays used counted
    cases busy.withStream .alloc allocReply with
    | mk result next =>
        intro used counted exchanged stays
        cases result with
        | error error =>
            refine ⟨by simp, fun _ _ => ?_⟩
            exact used.setUsed _
        | ok offset =>
            simp only
            cases created : PageHandle.new next.backend.backendId offset with
            | none => exact ⟨by simp, by simp⟩
            | some handle =>
                refine ⟨?_, by simp⟩
                intro given isHandle
                rw [← Outcome.ok.inj isHandle, PageHandle.offset_of_new created]
                refine ⟨Option.isSome_iff_exists.mpr (stays offset rfl), used.counted, ?_⟩
                intro few
                have keeps := busySound.keeps (counted.trans few)
                rcases Option.isSome_iff_exists.mp busyOpen with ⟨opened, isStream⟩
                rw [isStream, keeps.stream opened isStream] at exchanged
                exact ⟨keeps.upcoming.alloc exchanged few key data, (used.keeps few).stream⟩

end TcpLink

end Duvm
