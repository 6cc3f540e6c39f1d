import Duvm.Backend.Tcp

/-!
# Idle connections

The TCP backend while the memory server keeps running and accepts every connection,
but closes one which it has not heard of for a while (`set_read_timeout` in
`duvm-memserver/src/main.rs`). The request which finds its connection closed is
lost, and clears the stream; the next one opens a new connection and is answered.
So there is never more than one failure in a row, and the circuit breaker does not
come into it.
-/

namespace Duvm

open Memserver (PageStore)
open Tcp (Operation allocReply storeReply loadReply freeReply)

/-- The time before an operation: whether the server has closed the connection meanwhile, and
what the clock says. -/
structure Moment where
  closed : Bool
  now : ℕ

namespace TcpLink

variable {link : TcpLink} {Answer : Type}

/-- There is a connection, and it is closed. -/
def interrupted (link : TcpLink) (moment : Moment) : Bool :=
  moment.closed && link.backend.conn.stream.isSome

/-- What the next use of the connection meets with. -/
def meet (link : TcpLink) (moment : Moment) : TcpLink :=
  let delivery := if link.interrupted moment then .requestLost else .answered
  { link with fates := [⟨[], moment.now, .connected, delivery⟩] }

/-- The stream is open and its last use went well, or there is none because it did not. -/
def Resumable (link : TcpLink) : Prop :=
  link.backend.conn.stream = some link.server.lifetime ∧
      link.backend.conn.consecutiveFailures = 0 ∨
    link.backend.conn.stream = none ∧ link.backend.conn.consecutiveFailures ≤ 1

/-- A use of the connection is answered unless the connection is closed. -/
structure Met (link : TcpLink) (moment : Moment) (operation : Operation)
    (reply : PageStore → Except DuvmError Answer) (result : Except DuvmError Answer)
    (after : TcpLink) : Prop where
  result : result = if link.interrupted moment then .error .io else reply link.server.store
  server : after.server =
    if link.interrupted moment then link.server else link.server.serve operation
  resumable : after.Resumable

/-- The stream which is used, and no failure so far. -/
theorem obtainStream_of_resumable (resumable : link.Resumable) (addr : String) (fate : Fate)
    (accepts : fate.attempt = .connected) :
    ∃ conn, TcpBackend.obtainStream addr fate link.server.lifetime link.backend.conn =
        (.ok link.server.lifetime, conn) ∧
      conn.stream = some link.server.lifetime ∧ conn.consecutiveFailures = 0 := by
  rcases resumable with ⟨isOpen, none⟩ | ⟨closed, few⟩
  · exact ⟨_, obtainStream_open addr fate _ isOpen, isOpen, none⟩
  · have retried : TcpBackend.circuitBreakerOpen link.backend.conn fate.now = false := by
      have below : ¬ link.backend.conn.consecutiveFailures ≥ TcpBackend.MAX_CONSECUTIVE_FAILURES :=
        UInt32.not_le.mpr (UInt32.lt_of_le_of_lt few (by decide))
      rw [TcpBackend.circuitBreakerOpen, decide_eq_false below, Bool.false_and]
    exact ⟨_, obtainStream_reconnected addr _ closed retried accepts, rfl, rfl⟩

theorem Resumable.met (resumable : link.Resumable) (moment : Moment) (operation : Operation)
    (reply : PageStore → Except DuvmError Answer) :
    link.Met moment operation reply ((link.meet moment).withStream operation reply).1
      ((link.meet moment).withStream operation reply).2 := by
  rcases obtainStream_of_resumable resumable link.backend.addr (link.meet moment).fate rfl with
    ⟨conn, obtained, isOpen, none⟩
  have used : TcpBackend.obtainStream (link.meet moment).backend.addr (link.meet moment).fate
      (link.meet moment).upcoming.lifetime (link.meet moment).backend.conn =
        (.ok link.server.lifetime, conn) := obtained
  have once : conn.consecutiveFailures + 1 ≤ 1 := by
    rw [none]
    decide
  unfold withStream
  simp only [used]
  cases cut : link.interrupted moment with
  | true =>
      have lost : exchange (link.meet moment).upcoming operation reply
          (link.meet moment).fate.delivery link.server.lifetime = (.error .io, link.server) := by
        simp [exchange, upcoming, TcpLink.fate, meet, cut]
      simp only [lost]
      exact ⟨by rw [cut]; rfl, by rw [cut]; rfl, .inr ⟨rfl, once⟩⟩
  | false =>
      have answered : exchange (link.meet moment).upcoming operation reply
          (link.meet moment).fate.delivery link.server.lifetime =
            (reply link.server.store, link.server.serve operation) := by
        simp [exchange, upcoming, TcpLink.fate, meet, cut]
      simp only [answered]
      cases replied : reply link.server.store with
      | ok answer => exact ⟨by rw [cut, replied]; rfl, by rw [cut]; rfl, .inl ⟨isOpen, rfl⟩⟩
      | error error =>
          exact ⟨by rw [cut, replied]; rfl, by rw [cut]; rfl, .inr ⟨rfl, once⟩⟩

/-- The counter of the pages has no part in it. -/
theorem Resumable.met_setUsed (resumable : link.Resumable) (moment : Moment) (used : UInt64)
    (operation : Operation) (reply : PageStore → Except DuvmError Answer) :
    link.Met moment operation reply (((link.meet moment).setUsed used).withStream operation reply).1
      (((link.meet moment).setUsed used).withStream operation reply).2 := by
  have counted : (link.setUsed used).Resumable := resumable
  have met := counted.met moment operation reply
  exact ⟨met.result, met.server, met.resumable⟩

end TcpLink

/-- The backend with its server, and what the connection will meet with. -/
structure IdleLink where
  link : TcpLink
  moments : List Moment

namespace IdleLink

variable {idle after : IdleLink} {handle : PageHandle} {data : PageBuffer}

def moment (idle : IdleLink) : Moment := idle.moments.headD ⟨false, 0⟩

/-- The next operation finds its connection closed. -/
def interrupted (idle : IdleLink) : Bool := idle.link.interrupted idle.moment

def next (idle : IdleLink) (link : TcpLink) : IdleLink := ⟨link, idle.moments.tail⟩

/-- The page which the server has at an offset. -/
def page (idle : IdleLink) (slot : UInt64) : Option PageBuffer :=
  idle.link.server.store.pages.lookup slot

instance : DuvmBackend IdleLink where
  tier idle := DuvmBackend.tier idle.link
  allocPage idle := (idle.link.meet idle.moment).allocPage.map id idle.next
  freePage idle handle := ((idle.link.meet idle.moment).freePage handle).map id idle.next
  storePage idle handle data :=
    ((idle.link.meet idle.moment).storePage handle data).map id idle.next
  loadPage idle handle := ((idle.link.meet idle.moment).loadPage handle).map id idle.next
  capacity idle := DuvmBackend.capacity idle.link
  isHealthy idle := DuvmBackend.isHealthy idle.link

/-- The backend is not locked out, and the server has pages only at offsets which it has given
out, all of which fit into a handle. -/
structure Steady (idle : IdleLink) : Prop where
  resumable : idle.link.Resumable
  offsets : idle.link.server.store.nextOffset.toNat ≤ PageHandle.offsetLimit
  below : ∀ slot data, idle.page slot = some data →
    slot.toNat < idle.link.server.store.nextOffset.toNat

/-- An operation which gives out no offset, and leaves all pages but one alone. -/
theorem Steady.keep (steady : idle.Steady) (resumable : after.link.Resumable)
    (sameOffset : after.link.server.store.nextOffset = idle.link.server.store.nextOffset)
    {slot : UInt64} (same : ∀ other, other ≠ slot → after.page other = idle.page other)
    (given : after.page slot = idle.page slot ∨ after.page slot = none ∨
      slot.toNat < idle.link.server.store.nextOffset.toNat) : after.Steady where
  resumable := resumable
  offsets := by
    rw [sameOffset]
    exact steady.offsets
  below other data found := by
    rw [sameOffset]
    by_cases isSlot : other = slot
    · subst isSlot
      rcases given with unchanged | gone | below
      · exact steady.below other data (unchanged.symm.trans found)
      · rw [gone] at found
        cases found
      · exact below
    · exact steady.below other data ((same other isSlot).symm.trans found)

theorem Steady.loadPage (steady : idle.Steady) (handle : PageHandle) :
    (DuvmBackend.loadPage idle handle).2.Steady ∧
      ∀ slot, (DuvmBackend.loadPage idle handle).2.page slot = idle.page slot := by
  have met := steady.resumable.met idle.moment (.load handle) (loadReply · handle)
  have same : ((idle.link.meet idle.moment).loadPage handle).2.server.store =
      idle.link.server.store := by
    rw [TcpLink.loadPage, met.server]
    split
    · rfl
    · rfl
  have pages : ∀ slot, (DuvmBackend.loadPage idle handle).2.page slot = idle.page slot := by
    intro slot
    exact congrArg (fun store => store.pages.lookup slot) same
  refine ⟨?_, pages⟩
  exact steady.keep met.resumable (congrArg PageStore.nextOffset same)
    (fun other _ => pages other) (.inl (pages handle.offset))

/-- A page of the server is loaded unless the connection is closed. -/
theorem Steady.loadPage_ok_iff (steady : idle.Steady)
    (present : idle.page handle.offset = some data) :
    (DuvmBackend.loadPage idle handle).1 = .ok data ↔ idle.interrupted = false := by
  have met := steady.resumable.met idle.moment (.load handle) (loadReply · handle)
  have replied : loadReply idle.link.server.store handle = .ok data := by
    rw [loadReply, show idle.link.server.store.load handle.offset = some data from present]
  have result : (DuvmBackend.loadPage idle handle).1 =
      if idle.interrupted then .error .io else .ok data := by
    rw [← replied]
    exact met.result
  rw [result]
  cases idle.interrupted with
  | true => simp
  | false => simp

theorem Steady.freePage (steady : idle.Steady) (handle : PageHandle) :
    (DuvmBackend.freePage idle handle).2.Steady ∧ ∀ slot, slot ≠ handle.offset →
      (DuvmBackend.freePage idle handle).2.page slot = idle.page slot := by
  have met := steady.resumable.met idle.moment (.free handle) (freeReply · handle)
  have same : (DuvmBackend.freePage idle handle).2.link.Resumable ∧
      (DuvmBackend.freePage idle handle).2.link.server =
        if idle.interrupted then idle.link.server else idle.link.server.serve (.free handle) := by
    change ((idle.link.meet idle.moment).freePage handle).2.Resumable ∧
      ((idle.link.meet idle.moment).freePage handle).2.server = _
    unfold TcpLink.freePage
    revert met
    cases (idle.link.meet idle.moment).withStream (.free handle) (freeReply · handle) with
    | mk result after =>
        intro met
        cases result with
        | error error => exact ⟨met.resumable, met.server⟩
        | ok done => exact ⟨met.resumable, met.server⟩
  rcases same with ⟨resumable, server⟩
  cases cut : idle.interrupted with
  | true =>
      rw [cut, if_pos rfl] at server
      have pages : ∀ slot, (DuvmBackend.freePage idle handle).2.page slot = idle.page slot := by
        intro slot
        rw [page, server]
        rfl
      refine ⟨?_, fun slot _ => pages slot⟩
      exact steady.keep resumable (by rw [server]) (fun other _ => pages other)
        (.inl (pages handle.offset))
  | false =>
      rw [cut, if_neg Bool.false_ne_true] at server
      have pages : ∀ slot, slot ≠ handle.offset →
          (DuvmBackend.freePage idle handle).2.page slot = idle.page slot := by
        intro slot distinct
        rw [page, server]
        exact PageStore.lookup_free_of_ne _ distinct
      refine ⟨steady.keep resumable ?_ pages (.inr (.inl ?_)), pages⟩
      · rw [server]
        exact PageStore.nextOffset_free _ _
      · rw [page, server]
        exact PageStore.lookup_free_self _ _

theorem Steady.storePage (steady : idle.Steady)
    (given : handle.offset.toNat < idle.link.server.store.nextOffset.toNat) (data : PageBuffer) :
    (DuvmBackend.storePage idle handle data).2.Steady ∧
      (∀ slot, slot ≠ handle.offset →
        (DuvmBackend.storePage idle handle data).2.page slot = idle.page slot) ∧
      ((DuvmBackend.storePage idle handle data).1 = .ok () →
        (DuvmBackend.storePage idle handle data).2.page handle.offset = some data) := by
  have met := steady.resumable.met idle.moment (.store handle data) (storeReply · handle data)
  have result : (DuvmBackend.storePage idle handle data).1 =
      if idle.interrupted then .error .io else storeReply idle.link.server.store handle data :=
    met.result
  have server : (DuvmBackend.storePage idle handle data).2.link.server =
      if idle.interrupted then idle.link.server
      else idle.link.server.serve (.store handle data) := met.server
  have pages : ∀ slot, slot ≠ handle.offset →
      (DuvmBackend.storePage idle handle data).2.page slot = idle.page slot := by
    intro slot distinct
    rw [page, server]
    split
    · rfl
    · exact PageStore.lookup_store_of_ne _ data distinct
  refine ⟨steady.keep met.resumable ?_ pages (.inr (.inr given)), pages, ?_⟩
  · rw [server]
    split
    · rfl
    · exact PageStore.nextOffset_store _ _ _
  · intro stored
    rw [result] at stored
    cases cut : idle.interrupted with
    | true =>
        rw [cut, if_pos rfl] at stored
        cases stored
    | false =>
        rw [cut, if_neg Bool.false_ne_true, storeReply] at stored
        rw [page, server, cut, if_neg Bool.false_ne_true]
        apply PageStore.lookup_of_accepted
        by_contra refused
        rw [if_neg refused] at stored
        cases stored

/-- A server gives out its next offset, or stays as it is. -/
theorem allocReply_cases (store : PageStore) :
    (allocReply store = .ok store.nextOffset ∧ Operation.alloc.after store =
        { store with used := store.used + 1, nextOffset := store.nextOffset + 1 }) ∨
      allocReply store = .error .remoteAllocFailed ∧ Operation.alloc.after store = store := by
  unfold allocReply Operation.after
  by_cases room : store.used < store.maxPages
  · rw [PageStore.allocOffset_of_lt room]
    exact .inl ⟨rfl, rfl⟩
  · rw [PageStore.allocOffset_of_le (UInt64.not_lt.mp room)]
    exact .inr ⟨rfl, rfl⟩

/-- What becomes of an allocation. -/
inductive Allocation (idle : IdleLink) : Outcome PageHandle → IdleLink → Prop
  | refused {error : DuvmError} {after : IdleLink} (resumable : after.link.Resumable)
      (same : after.link.server.store = idle.link.server.store) :
      Allocation idle (.err error) after
  | given {id : UInt8} {handle : PageHandle} {after : IdleLink}
      (resumable : after.link.Resumable)
      (created : PageHandle.new id idle.link.server.store.nextOffset = some handle)
      (store : after.link.server.store = { idle.link.server.store with
        used := idle.link.server.store.used + 1
        nextOffset := idle.link.server.store.nextOffset + 1 }) :
      Allocation idle (.ok handle) after
  | panicked {after : IdleLink} : Allocation idle .panic after

theorem allocation_of_steady (steady : idle.Steady) :
    idle.Allocation (DuvmBackend.allocPage idle).1 (DuvmBackend.allocPage idle).2 := by
  change idle.Allocation (idle.link.meet idle.moment).allocPage.1
    (idle.next (idle.link.meet idle.moment).allocPage.2)
  unfold TcpLink.allocPage
  split
  · exact .refused steady.resumable rfl
  · have met := steady.resumable.met_setUsed idle.moment
      ((idle.link.meet idle.moment).backend.pagesUsed + 1) .alloc allocReply
    split
    · next error after failed =>
        rw [failed] at met
        refine .refused met.resumable ?_
        change after.server.store = idle.link.server.store
        rw [met.server]
        split
        · rfl
        · next going =>
            have result := met.result
            rw [if_neg going] at result
            rcases allocReply_cases idle.link.server.store with ⟨given, -⟩ | ⟨-, same⟩
            · cases result.trans given
            · exact same
    · next offset after answered =>
        rw [answered] at met
        have result := met.result
        have server := met.server
        split
        · next handle created =>
            split at result
            · cases result
            · next going =>
                rw [if_neg going] at server
                rcases allocReply_cases idle.link.server.store with ⟨given, bumped⟩ | ⟨refused, -⟩
                · cases result.trans given
                  refine .given met.resumable created ?_
                  change after.server.store = _
                  rw [server]
                  exact bumped
                · cases result.trans refused
        · exact .panicked

theorem Steady.denied (steady : idle.Steady) {error : DuvmError}
    (denied : DuvmBackend.allocPage idle = (.err error, after)) :
    after.Steady ∧ ∀ slot, after.page slot = idle.page slot := by
  have allocation := allocation_of_steady steady
  rw [denied] at allocation
  cases allocation with
  | refused resumable same =>
      have pages : ∀ slot, after.page slot = idle.page slot := by
        intro slot
        exact congrArg (fun store => store.pages.lookup slot) same
      refine ⟨?_, pages⟩
      exact steady.keep resumable (congrArg PageStore.nextOffset same) (fun other _ => pages other)
        (.inl (pages 0))

/-- The next offset is given out: no page is there, and there is none beyond it. -/
theorem Steady.allocated (steady : idle.Steady)
    (allocated : DuvmBackend.allocPage idle = (.ok handle, after)) :
    after.Steady ∧ (∀ slot, after.page slot = idle.page slot) ∧
      handle.offset.toNat < after.link.server.store.nextOffset.toNat ∧
      idle.page handle.offset = none := by
  have allocation := allocation_of_steady steady
  rw [allocated] at allocation
  cases allocation with
  | given resumable created store =>
      have slot := PageHandle.offset_of_new created
      have fits : idle.link.server.store.nextOffset.toNat < 2 ^ 56 :=
        PageHandle.new_isSome.mp (by rw [created]; rfl)
      have bumped : after.link.server.store.nextOffset.toNat =
          idle.link.server.store.nextOffset.toNat + 1 := by
        rw [store, UInt64.toNat_add, show (1 : UInt64).toNat = 1 from rfl]
        omega
      have pages : ∀ slot, after.page slot = idle.page slot := by
        intro slot
        exact congrArg (fun store => store.pages.lookup slot) store
      refine ⟨⟨resumable, ?_, ?_⟩, pages, ?_, ?_⟩
      · rw [bumped]
        exact fits
      · intro other data found
        have below := steady.below other data ((pages other).symm.trans found)
        omega
      · rw [bumped, slot]
        exact Nat.lt_succ_self _
      · by_contra present
        rcases Option.ne_none_iff_exists'.mp present with ⟨data, found⟩
        have below := steady.below handle.offset data found
        rw [slot] at below
        exact Nat.lt_irrefl _ below

end IdleLink

end Duvm
