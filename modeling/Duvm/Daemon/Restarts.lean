import Duvm.Daemon.Refinement
import Duvm.Daemon.Remote

/-!
# Restarts of the memory server

Sessions with an engine whose only backend is a TCP backend, while connections
are cut and the memory server is restarted. A page which is tracked is a deposit
on the server, under the handle which the policy has for it. Handles survive a
restart, and the offsets of the new server start from zero again; but the engine
asks for an offset only over a stream which is open already, and it never comes to
have one to the new server, because every page which it asks for there is missing.

What remains is the counter of the offsets. It has 64 bits, and an offset is used
up even if the reply which carries it is lost.
-/

namespace Duvm.Daemon

open Function (update)
open Memserver (PageStore)
open Tcp (allocReply storeReply loadReply freeReply)

variable {id : UInt8} {count : ℕ} {deposits : UInt64 → Option Deposit}

namespace Session

variable {session : Session TcpLink} {next : Engine TcpLink} {event : Event}

/-- The page of the last store of the offset which succeeded, if it was not invalidated since. -/
def Latest (log : List Event) (offset : UInt64) (data : PageBuffer) : Prop :=
  ∃ handle evicted, Log.last? (Event.settles offset) log =
    some ⟨.store offset data, .handle handle, evicted⟩

/-- A page which the engine tracks is a deposit, and it is the page stored last. -/
def Backed (session : Session TcpLink) (deposits : UInt64 → Option Deposit) (offset : UInt64) :
    Prop :=
  ∀ entry, session.engine.policy.lookup offset = some entry →
    ∃ deposit, deposits offset = some deposit ∧ deposit.slot = entry.handle.offset ∧
      Latest session.log offset deposit.data

theorem latest_concat {log : List Event} {offset : UInt64} {data : PageBuffer}
    (latest : Latest log offset data) (other : event.settles offset = false) :
    Latest (log ++ [event]) offset data := by
  unfold Latest
  rw [Log.last?_concat, other]
  exact latest

/-- A page which is kept by a call that does not concern it. -/
theorem Backed.record {after : UInt64 → Option Deposit} {offset : UInt64}
    (backed : session.Backed deposits offset)
    (kept : ∀ entry, next.policy.lookup offset = some entry →
      ∃ old, session.engine.policy.lookup offset = some old ∧ old.handle = entry.handle)
    (same : after offset = deposits offset) (other : event.settles offset = false) :
    (session.record next event).Backed after offset := by
  intro entry listed
  rcases kept entry listed with ⟨old, wasListed, sameHandle⟩
  rcases backed old wasListed with ⟨deposit, deposited, isSlot, latest⟩
  refine ⟨deposit, same.trans deposited, ?_, latest_concat latest other⟩
  rw [isSlot, sameHandle]

/-- The engine serves what the record says and has done so before, unless an offset of the server
has been given out twice. -/
structure Served (session : Session TcpLink) (id : UInt8) (granted : ℕ)
    (deposits : UInt64 → Option Deposit) : Prop where
  serves : session.engine.Serves id granted deposits
  backed : ∀ offset, session.Backed deposits offset
  loads : granted ≤ 2 ^ 64 → LoadsLatest session.log

def Consistent (session : Session TcpLink) (id : UInt8) : Prop :=
  ∃ granted deposits, session.Served id granted deposits

theorem Served.record {granted : ℕ} {after : UInt64 → Option Deposit}
    (served : session.Served id granted deposits) (serves : next.Serves id granted after)
    (backed : ∀ offset, (session.record next event).Backed after offset)
    (answers : next.FewOffsets → ∀ offset data, event.call = .load offset →
      event.reply = .page data → Latest session.log offset data) :
    (session.record next event).Consistent id := by
  rcases serves.recount with ⟨total, exactly, few⟩
  refine ⟨total, after, exactly, backed, ?_⟩
  intro bound
  have earlier := served.loads (serves.counted (few bound))
  exact earlier.concat (answers (few bound))

section Calls

variable {granted : ℕ}

theorem Served.stored {offset : UInt64} {data : PageBuffer} {handle : PageHandle}
    {victim : Option UInt64} {roomy : Engine TcpLink} (served : session.Served id granted deposits)
    (within : roomy.policy.Within session.engine.policy)
    (settled : roomy.Settled id granted offset data deposits (.ok handle) next) :
    (session.record next ⟨.store offset data, .handle handle, victim⟩).Consistent id := by
  cases settled with
  | stored entry serves isHandle policy =>
      apply served.record serves
      · intro other
        by_cases same : other = offset
        · subst same
          intro found listed
          simp only [Session.record, policy, if_true, Option.some.injEq] at listed
          refine ⟨_, Function.update_self _ _ _, ?_, handle, victim, ?_⟩
          · rw [← listed, isHandle]
          · simp only [Session.record]
            rw [Log.last?_concat, if_pos (by simp [Event.settles])]
        · refine (served.backed other).record ?_ (Function.update_of_ne same _ _) ?_
          · intro found listed
            rw [policy, if_neg same] at listed
            exact within other found listed
          · simp [Event.settles, Ne.symm same]
      · intro _ _ _ isLoad
        simp at isLoad

theorem Served.refused {offset : UInt64} {data : PageBuffer} {error : DuvmError}
    {victim : Option UInt64} {roomy : Engine TcpLink} (served : session.Served id granted deposits)
    (within : roomy.policy.Within session.engine.policy)
    (untracked : roomy.policy.lookup offset = none)
    (settled : roomy.Settled id granted offset data deposits (.err error) next) :
    (session.record next ⟨.store offset data, .error error, victim⟩).Consistent id := by
  cases settled with
  | refused attempt serves samePolicy =>
      apply served.record serves
      · intro other
        by_cases same : other = offset
        · intro entry listed
          simp only [Session.record, samePolicy, same, untracked] at listed
          simp at listed
        · refine (served.backed other).record ?_ (Function.update_of_ne same _ _) rfl
          rw [samePolicy]
          exact within other
      · intro _ _ _ isLoad
        simp at isLoad

/-- A call which gives up at most the page it is about. -/
theorem Served.narrowed (served : session.Served id granted deposits)
    (narrows : session.engine.Narrows next id granted deposits)
    (concerns : ∀ offset, event.settles offset = true → next.policy.lookup offset = none)
    (answers : next.FewOffsets → ∀ offset data, event.call = .load offset →
      event.reply = .page data → Latest session.log offset data) :
    (session.record next event).Consistent id := by
  apply served.record narrows.serves _ answers
  intro offset
  cases settles : event.settles offset with
  | false => exact (served.backed offset).record (narrows.within offset) rfl settles
  | true =>
      intro entry listed
      have untracked := concerns offset settles
      simp only [Session.record, untracked] at listed
      simp at listed

theorem Served.unloaded (served : session.Served id granted deposits)
    (narrows : session.engine.Narrows next id granted deposits)
    (concerns : ∀ offset, event.settles offset = true → next.policy.lookup offset = none)
    (noLoad : ∀ offset, event.call ≠ .load offset) : (session.record next event).Consistent id := by
  apply served.narrowed narrows concerns
  intro _ offset _ isLoad
  exact absurd isLoad (noLoad offset)

/-- An invalidated offset is not tracked any more, whatever the backend says. -/
theorem Served.invalidated (served : session.Served id granted deposits) {offset : UInt64}
    {outcome : Except DuvmError Unit}
    (result : session.engine.invalidatePage offset = (outcome, next)) (reply : Reply) :
    (session.record next ⟨.invalidate offset, reply, none⟩).Consistent id := by
  rcases served.serves.invalidatePage offset with ⟨narrows, untracked⟩
  rw [result] at narrows untracked
  apply served.unloaded narrows _ (by simp)
  intro other settles
  simp only [Event.settles, decide_eq_true_eq] at settles
  rw [← settles]
  exact untracked

theorem Served.step {after : Session TcpLink} {action : CallEnv × Call}
    (served : session.Served id granted deposits) (stepped : session.step action = some after) :
    after.Consistent id := by
  cases Session.called_of_step stepped with
  | @stored env offset data handle engine result =>
      rcases served.serves.storePage env offset data with ⟨_, within, _, settled⟩
      rw [result] at settled
      exact served.stored within settled
  | @refused env offset data error engine result =>
      rcases served.serves.storePage env offset data with ⟨_, within, untracked, settled⟩
      rw [result] at settled
      exact served.refused within untracked settled
  | @loaded env offset page engine result =>
      rcases served.serves.loadPage env offset with ⟨narrows, found⟩
      rw [result] at narrows found
      apply served.narrowed narrows (by simp [Event.settles])
      intro few other data isLoad isPage
      rw [← Call.load.inj isLoad, ← Reply.page.inj isPage]
      rcases found page rfl few with ⟨entry, listed, isData⟩
      rcases served.backed offset entry listed with ⟨deposit, deposited, isSlot, latest⟩
      rw [isData deposit deposited isSlot]
      exact latest
  | @missed env offset error engine result =>
      rcases served.serves.loadPage env offset with ⟨narrows, _⟩
      rw [result] at narrows
      apply served.narrowed narrows (by simp [Event.settles])
      intro _ _ _ _ isPage
      simp at isPage
  | @invalidated env offset engine result => exact served.invalidated result .done
  | @retained env offset error engine result => exact served.invalidated result (.error error)
  | @flagged env offset flag =>
      refine served.unloaded ⟨served.serves, ?_⟩ (by simp [Event.settles]) (by simp)
      exact PolicyEngine.within_of_retouched (PolicyEngine.retouched_setFlag _ offset flag)
  | @unflagged env offset flag =>
      refine served.unloaded ⟨served.serves, ?_⟩ (by simp [Event.settles]) (by simp)
      exact PolicyEngine.within_of_retouched (PolicyEngine.retouched_clearFlag _ offset flag)

end Calls

/-- The engine at the start: its backend is connected to a server which has just been started. -/
def remote (id : UInt8) (addr : String) (maxPages serverPages : UInt64) (fates : List Fate) :
    Session TcpLink :=
  start (AList.singleton id
    ⟨.connected id addr maxPages 0, .start serverPages, fates⟩)

theorem consistent_remote (id : UInt8) (addr : String) (maxPages serverPages : UInt64)
    (fates : List Fate) : (remote id addr maxPages serverPages fates).Consistent id := by
  refine ⟨0, fun _ => none, ⟨_, rfl, Nat.zero_le _, ?_⟩, ?_, fun _ => Log.each_nil⟩
  · intro _
    refine ⟨MemoryServer.keeps_start serverPages, ?_⟩
    intro opened isOpen
    exact (Option.some.inj isOpen).symm
  · intro offset entry listed
    simp [remote, start, Engine.withBackends, PolicyEngine.new, PolicyEngine.lookup] at listed

end Session

variable {session : Session TcpLink}

open Session in
/-- Whatever happens to the connection and to the server, a load which succeeds returns the page
stored last, as long as the server has not given out more offsets than there are. -/
theorem loads_latest_through_restarts {addr : String} {maxPages serverPages : UInt64}
    {fates : List Fate} {actions : List (CallEnv × Call)}
    (reached : Transition.run step (remote id addr maxPages serverPages fates) actions =
      some session)
    (few : ∀ other link, session.engine.backends.lookup other = some link →
      link.server.granted ≤ 2 ^ 64) : LoadsLatest session.log := by
  have consistent : session.Consistent id := by
    apply Transition.run_invariant _ _ reached
    · exact consistent_remote id addr maxPages serverPages fates
    · rintro current action next ⟨granted, deposits, served⟩ stepped
      exact served.step stepped
  rcases consistent with ⟨granted, deposits, served⟩
  exact served.loads (served.serves.counted few)

def calmly (delivery : Delivery) : Fate := ⟨[], 0, .connected, delivery⟩

def quietly (call : Call) : CallEnv × Call := (⟨0, .listed TrackedPage⟩, call)

/-- The server is restarted between two loads. -/
def restartFates : List Fate :=
  [calmly .answered, calmly .answered, calmly .answered, ⟨[.restart], 0, .connected, .answered⟩,
    calmly .answered]

def storeAndLoads : List (CallEnv × Call) :=
  [.store 1 (.filled 1), .load 1, .load 1, .load 1].map quietly

/-- The page is read back before the restart, and not found after it. -/
theorem latest_before_restart_none_after :
    ∃ session handle, Transition.run Session.step (.remote 0 "server" 2 2 restartFates)
        storeAndLoads = some session ∧
      session.log.map Event.reply = [.handle handle, .page (.filled 1), .error .io,
        .error .remoteLoadFailed] ∧
      LoadsLatest session.log := by
  have ran : ∃ session handle link, Transition.run Session.step
      (.remote 0 "server" 2 2 restartFates) storeAndLoads = some session ∧
      session.log.map Event.reply = [.handle handle, .page (.filled 1), .error .io,
        .error .remoteLoadFailed] ∧
      session.engine.backends = AList.singleton 0 link ∧ link.server.granted = 1 :=
    ⟨_, _, _, rfl, rfl, rfl, rfl⟩
  rcases ran with ⟨session, handle, link, reached, replies, only, granted⟩
  refine ⟨session, handle, reached, replies, loads_latest_through_restarts reached ?_⟩
  intro other found isFound
  rw [(Engine.eq_of_only only isFound).2, granted]
  decide

/-- A connection to a server in its first lifetime. -/
def held (conn : ConnState) (pagesUsed : UInt64) (store : PageStore) (granted : ℕ)
    (fates : List Fate) : TcpLink :=
  ⟨⟨conn, "server", 0, 2, pagesUsed⟩, ⟨store, 0, [], granted⟩, fates⟩

section Held

variable {last : Option ℕ} {store : PageStore} {granted : ℕ} {rest : List Fate}
  {handle : PageHandle} {data : PageBuffer} {pagesUsed : UInt64}

theorem allocPage_held (available : pagesUsed < 2) (room : store.used < store.maxPages)
    (created : PageHandle.new 0 store.nextOffset = some handle) :
    (held ⟨some 0, 0, last⟩ pagesUsed store granted (calmly .answered :: rest)).allocPage =
      (.ok handle, held ⟨some 0, 0, last⟩ (pagesUsed + 1) store.allocOffset.2
        (granted + MemoryServer.grants store .alloc) rest) := by
  have replied : allocReply store = .ok store.nextOffset := by
    rw [allocReply, PageStore.allocOffset_of_lt room]
  refine TcpLink.allocPage_of_answered available ?_ created
  exact TcpLink.withStream_answered ⟨some 0, 0, last⟩ rfl rfl rfl
    (TcpLink.obtainStream_open _ _ _ rfl) replied

theorem allocPage_lost (available : pagesUsed < 2) :
    (held ⟨some 0, 0, last⟩ pagesUsed store granted (calmly .replyLost :: rest)).allocPage =
      (.err .io, held ⟨none, 0 + 1, last⟩ pagesUsed store.allocOffset.2
        (granted + MemoryServer.grants store .alloc) rest) := by
  have served : (held ⟨some 0, 0, last⟩ (pagesUsed + 1) store granted
      (calmly .replyLost :: rest)).withStream .alloc allocReply = (.error .io,
        held ⟨none, 0 + 1, last⟩ (pagesUsed + 1) store.allocOffset.2
          (granted + MemoryServer.grants store .alloc) rest) :=
    TcpLink.withStream_replyLost ⟨some 0, 0, last⟩ rfl rfl rfl (TcpLink.obtainStream_open _ _ _ rfl)
  generalize isLink : held ⟨some 0, 0, last⟩ pagesUsed store granted
    (calmly .replyLost :: rest) = link
  have reserved : link.setUsed (link.backend.pagesUsed + 1) = held ⟨some 0, 0, last⟩
      (pagesUsed + 1) store granted (calmly .replyLost :: rest) := by
    rw [← isLink]
    rfl
  have hasRoom : link.backend.pagesUsed < link.backend.maxPages := by
    rw [← isLink]
    exact available
  rw [← reserved] at served
  rw [TcpLink.allocPage_of_failed hasRoom served]
  simp [held, TcpLink.setUsed]

theorem storePage_held (accepted : (store.store handle.offset data).1 = true) :
    (held ⟨some 0, 0, last⟩ pagesUsed store granted (calmly .answered :: rest)).storePage handle
      data = (.ok (), held ⟨some 0, 0, last⟩ pagesUsed (store.store handle.offset data).2 granted
        rest) := by
  have replied : storeReply store handle data = .ok () := by
    rw [storeReply, if_pos accepted]
  exact TcpLink.withStream_answered ⟨some 0, 0, last⟩ rfl rfl rfl
    (TcpLink.obtainStream_open _ _ _ rfl) replied

theorem freePage_held (present : (store.free handle.offset).1 = true) :
    (held ⟨some 0, 0, last⟩ (pagesUsed + 1) store granted (calmly .answered :: rest)).freePage
      handle = (.ok (), held ⟨some 0, 0, last⟩ pagesUsed (store.free handle.offset).2 granted
        rest) := by
  have replied : freeReply store handle = .ok () := by
    rw [freeReply, if_pos present]
  have answered : (held ⟨some 0, 0, last⟩ (pagesUsed + 1) store granted
      (calmly .answered :: rest)).withStream (.free handle) (freeReply · handle) = (.ok (),
        held ⟨some 0, 0, last⟩ (pagesUsed + 1) (store.free handle.offset).2 granted rest) :=
    TcpLink.withStream_answered ⟨some 0, 0, last⟩ rfl rfl rfl
      (TcpLink.obtainStream_open _ _ _ rfl) replied
  rw [TcpLink.freePage_of_answered answered]
  simp [held, TcpLink.setUsed]

/-- The backend still has its stream, or it connects again. -/
theorem loadPage_held {conn : ConnState}
    (obtained : TcpBackend.obtainStream "server" (calmly .answered) 0 conn =
      (.ok 0, ⟨some 0, 0, last⟩))
    (found : store.pages.lookup handle.offset = some data) :
    (held conn pagesUsed store granted (calmly .answered :: rest)).loadPage handle =
      (.ok data, held ⟨some 0, 0, last⟩ pagesUsed store granted rest) := by
  have replied : loadReply store handle = .ok data := by
    rw [loadReply, PageStore.load, found]
  have answered : (held conn pagesUsed store granted (calmly .answered :: rest)).withStream
      (.load handle) (loadReply · handle) = (.ok data,
        held ⟨some 0, 0, last⟩ pagesUsed store (granted + 0) rest) :=
    TcpLink.withStream_answered ⟨some 0, 0, last⟩ rfl rfl rfl obtained replied
  exact answered

end Held

/-- The only page tracked is the one of offset 1, at offset 0 of the server. -/
structure Parked (session : Session TcpLink) (conn : ConnState) (store : PageStore)
    (fates : List Fate) : Prop where
  backends : ∃ granted, session.engine.backends =
    AList.singleton 0 (held conn (0 + 1) store granted fates)
  first : ∃ entry, session.engine.policy.lookup 1 = some entry ∧ entry.handle.offset = 0 ∧
    entry.backendId = 0
  second : session.engine.policy.lookup 2 = none
  latest : Session.Latest session.log 1 (.filled 1)

namespace Parked

open Session

variable {session : Session TcpLink} {conn : ConnState} {last : Option ℕ} {store : PageStore}
  {rest : List Fate} {handle : PageHandle} {data : PageBuffer}

theorem load (parked : Parked session conn store (calmly .answered :: rest))
    (obtained : TcpBackend.obtainStream "server" (calmly .answered) 0 conn =
      (.ok 0, ⟨some 0, 0, last⟩))
    (found : store.pages.lookup 0 = some data) :
    ∃ next, session.step (quietly (.load 1)) = some next ∧
      next.log = session.log ++ [⟨.load 1, .page data, none⟩] ∧
      Parked next ⟨some 0, 0, last⟩ store rest := by
  rcases parked with ⟨⟨granted, only⟩, ⟨entry, listed, isSlot, onBackend⟩, absent, latest⟩
  rw [← isSlot] at found
  have loaded := Engine.loadPage_of_answered only listed onBackend (loadPage_held obtained found)
    ⟨0, .listed TrackedPage⟩
  refine ⟨_, step_of_loaded loaded, rfl, ⟨granted, rfl⟩, ?_, ?_, latest_concat latest rfl⟩
  · exact ⟨_, PolicyEngine.lookup_recordLoad listed _, isSlot, onBackend⟩
  · exact (PolicyEngine.within_of_retouched
      (PolicyEngine.retouched_recordLoad _ _ _)).untracked absent

/-- The server gives out an offset, and nobody learns of it. -/
theorem loseOffset (parked : Parked session ⟨some 0, 0, last⟩ store (calmly .replyLost :: rest)) :
    ∃ next, session.step (quietly (.store 2 .zero)) = some next ∧
      Parked next ⟨none, 0 + 1, last⟩ store.allocOffset.2 rest := by
  rcases parked with ⟨⟨granted, only⟩, first, absent, latest⟩
  have refused := Engine.storePage_of_alloc_failed only rfl absent
    (allocPage_lost (by decide)) ⟨0, .listed TrackedPage⟩ .zero
  exact ⟨_, step_of_refused refused, ⟨_, rfl⟩, first, absent, latest_concat latest rfl⟩

/-- A store of offset 2 which succeeds. -/
theorem storeSecond (parked : Parked session ⟨some 0, 0, last⟩ store
      (calmly .answered :: calmly .answered :: rest))
    (room : store.used < store.maxPages)
    (created : PageHandle.new 0 store.nextOffset = some handle)
    (accepted : (store.allocOffset.2.store handle.offset data).1 = true) :
    ∃ next granted, session.step (quietly (.store 2 data)) = some next ∧
      next.engine.backends = AList.singleton 0 (held ⟨some 0, 0, last⟩ (0 + 1 + 1)
        (store.allocOffset.2.store handle.offset data).2 granted rest) ∧
      next.engine.policy = session.engine.policy.recordStore ⟨0, .listed TrackedPage⟩ 2 handle 0
        .rdma ∧
      Latest next.log 1 (.filled 1) := by
  rcases parked with ⟨⟨granted, only⟩, first, absent, latest⟩
  have stored := Engine.storePage_of_answered only rfl absent
    (allocPage_held (by decide) room created) (storePage_held accepted) ⟨0, .listed TrackedPage⟩
  exact ⟨_, _, step_of_stored stored, rfl, rfl, latest_concat latest rfl⟩

/-- Offset 2 is stored and invalidated. -/
theorem storeAndInvalidate (parked : Parked session ⟨some 0, 0, last⟩ store
      (calmly .answered :: calmly .answered :: calmly .answered :: rest))
    (room : store.used < store.maxPages)
    (created : PageHandle.new 0 store.nextOffset = some handle)
    (accepted : (store.allocOffset.2.store handle.offset .zero).1 = true)
    (present : ((store.allocOffset.2.store handle.offset .zero).2.free handle.offset).1 = true) :
    ∃ next, Transition.run step session
        [quietly (.store 2 .zero), quietly (.invalidate 2)] = some next ∧
      Parked next ⟨some 0, 0, last⟩
        ((store.allocOffset.2.store handle.offset .zero).2.free handle.offset).2 rest := by
  rcases parked.storeSecond room created accepted with
    ⟨middle, granted, stepped, only, policy, latest⟩
  have listed : middle.engine.policy.lookup 2 = some ⟨handle, 0, .rdma, 0, 0, .empty⟩ := by
    rw [policy, Engine.lookup_recordStore, if_pos rfl]
  have others : ∀ other, other ≠ 2 →
      (middle.engine.policy.remove 2).2.lookup other = session.engine.policy.lookup other := by
    intro other different
    simp only [PolicyEngine.remove, PolicyEngine.lookup]
    rw [HashMap.lookup_erase_eq_ite, if_neg different]
    have before := Engine.lookup_recordStore session.engine.policy ⟨0, .listed TrackedPage⟩ 2 other
      handle 0 .rdma
    rw [if_neg different, ← policy] at before
    exact before
  have invalidated := Engine.invalidatePage_of_answered only listed rfl (freePage_held present)
  rcases parked.first with ⟨entry, wasListed, isSlot, onBackend⟩
  have ran := (Transition.run_cons_of_step [quietly (.invalidate 2)] stepped).trans
    (Transition.run_cons_of_step [] (step_of_invalidated ⟨0, .listed TrackedPage⟩ invalidated))
  refine ⟨_, ran, ⟨granted, rfl⟩, ⟨entry, ?_, isSlot, onBackend⟩, ?_, latest_concat latest rfl⟩
  · exact (others 1 (by decide)).trans wasListed
  · simp only [Session.record, PolicyEngine.remove, PolicyEngine.lookup]
    rw [HashMap.lookup_erase_eq_ite, if_pos rfl]

/-- An offset is lost, and the page of offset 1 is read over a new connection. -/
theorem spin (parked : Parked session ⟨some 0, 0, last⟩ store
      (calmly .replyLost :: calmly .answered :: rest))
    (found : store.allocOffset.2.pages.lookup 0 = some data) :
    ∃ next, Transition.run step session [quietly (.store 2 .zero), quietly (.load 1)] = some next ∧
      Parked next ⟨some 0, 0, some 0⟩ store.allocOffset.2 rest := by
  rcases parked.loseOffset with ⟨middle, lost, parked⟩
  have obtained : TcpBackend.obtainStream "server" (calmly .answered) 0 ⟨none, 0 + 1, last⟩ =
      (.ok 0, ⟨some 0, 0, some 0⟩) :=
    TcpLink.obtainStream_reconnected _ _ rfl rfl rfl
  rcases parked.load obtained found with ⟨next, loaded, _, parked⟩
  refine ⟨next, ?_, parked⟩
  rw [Transition.run_cons_of_step _ lost, Transition.run_cons_of_step _ loaded]
  rfl

end Parked

def serverPages : UInt64 := UInt64.ofNat (2 ^ 64 - 1)

/-- A page at offset 0 of the server, and the two counters. -/
def onlyPage (used next : ℕ) : PageStore :=
  ⟨AList.singleton 0 (.filled 1), serverPages, UInt64.ofNat used, UInt64.ofNat next⟩

theorem used_onlyPage {used : ℕ} (next : ℕ) (below : used < 2 ^ 64 - 1) :
    (onlyPage used next).used < (onlyPage used next).maxPages := by
  simp only [onlyPage, serverPages]
  rw [UInt64.lt_iff_toNat_lt, UInt64.toNat_ofNat', UInt64.toNat_ofNat']
  omega

theorem allocOffset_onlyPage (used next : ℕ) (below : used < 2 ^ 64 - 1) :
    (onlyPage used next).allocOffset =
      (some (UInt64.ofNat next), onlyPage (used + 1) (next + 1)) := by
  rw [PageStore.allocOffset_of_lt (used_onlyPage next below)]
  simp only [onlyPage, UInt64.ofNat_add]
  rfl

def spinFates (count : ℕ) : List Fate :=
  (List.replicate count [calmly .replyLost, calmly .answered]).flatten

def spinCalls (count : ℕ) : List (CallEnv × Call) :=
  (List.replicate count [quietly (.store 2 .zero), quietly (.load 1)]).flatten

open Session in
theorem Parked.spins {last : Option ℕ} {used next : ℕ} {rest : List Fate} (count : ℕ)
    (within : used + count ≤ 2 ^ 64 - 1)
    (parked : Parked session ⟨some 0, 0, last⟩ (onlyPage used next) (spinFates count ++ rest)) :
    ∃ final last, Transition.run step session (spinCalls count) = some final ∧
      Parked final ⟨some 0, 0, last⟩ (onlyPage (used + count) (next + count)) rest := by
  induction count generalizing session used next last with
  | zero => exact ⟨session, last, rfl, parked⟩
  | succ count ih =>
      have allocated := allocOffset_onlyPage used next (by omega)
      have found : (onlyPage used next).allocOffset.2.pages.lookup 0 = some (.filled 1) := by
        rw [allocated]
        rfl
      rcases parked.spin found with ⟨middle, first, parked⟩
      rw [allocated] at parked
      rcases ih (by omega) parked with ⟨final, last, later, parked⟩
      refine ⟨final, last, ?_, ?_⟩
      · have split : spinCalls (count + 1) =
            [quietly (.store 2 .zero), quietly (.load 1)] ++ spinCalls count := rfl
        rw [split, Transition.run_append, first]
        exact later
      · rw [Nat.add_right_comm, Nat.add_right_comm next] at parked
        exact parked

/-- Three offsets are used up for the page of offset 1 and for two of offset 2, which are
invalidated. -/
def firstCalls : List (CallEnv × Call) :=
  [.store 1 (.filled 1), .store 2 .zero, .invalidate 2, .store 2 .zero, .invalidate 2].map quietly

def firstFates : List Fate := List.replicate 8 (calmly .answered)

open Session in
theorem parked_stored (rest : List Fate) :
    ∃ session, (remote 0 "server" 2 serverPages
        (calmly .answered :: calmly .answered :: rest)).step (quietly (.store 1 (.filled 1))) =
          some session ∧
      Parked session ⟨some 0, 0, none⟩ (onlyPage 1 1) rest := by
  have room : (PageStore.new serverPages).used < (PageStore.new serverPages).maxPages := by decide
  have created : PageHandle.new 0 (PageStore.new serverPages).nextOffset = some ⟨0⟩ := by decide
  have accepted : ((PageStore.new serverPages).allocOffset.2.store (PageHandle.mk 0).offset
      (.filled 1)) = (true, onlyPage 1 1) := rfl
  have only : (remote 0 "server" 2 serverPages
      (calmly .answered :: calmly .answered :: rest)).engine.backends = AList.singleton 0
        (held ⟨some 0, 0, none⟩ 0 (.new serverPages) 0
          (calmly .answered :: calmly .answered :: rest)) := rfl
  have absent : (remote 0 "server" 2 serverPages
      (calmly .answered :: calmly .answered :: rest)).engine.policy.lookup 1 = none := rfl
  have stored := Engine.storePage_of_answered only rfl absent
    (allocPage_held (by decide) room created) (storePage_held (congrArg Prod.fst accepted))
    ⟨0, .listed TrackedPage⟩
  rw [accepted] at stored
  refine ⟨_, step_of_stored stored, ⟨_, rfl⟩, ⟨_, rfl, rfl, rfl⟩, rfl, ?_⟩
  exact ⟨_, _, rfl⟩

open Session in
theorem parked_first (rest : List Fate) :
    ∃ session, Transition.run step (remote 0 "server" 2 serverPages (firstFates ++ rest))
        firstCalls = some session ∧
      Parked session ⟨some 0, 0, none⟩ (onlyPage 1 3) rest := by
  rcases parked_stored (List.replicate 6 (calmly .answered) ++ rest) with ⟨first, stored, parked⟩
  have firstHandle : PageHandle.new 0 (onlyPage 1 1).nextOffset = some ⟨1⟩ := by decide
  rcases parked.storeAndInvalidate (used_onlyPage 1 (by decide)) firstHandle rfl rfl with
    ⟨second, once, parked⟩
  have secondHandle : PageHandle.new 0 (onlyPage 1 2).nextOffset = some ⟨2⟩ := by decide
  have parked : Parked second ⟨some 0, 0, none⟩ (onlyPage 1 2)
      (List.replicate 3 (calmly .answered) ++ rest) := parked
  rcases parked.storeAndInvalidate (used_onlyPage 2 (by decide)) secondHandle rfl rfl with
    ⟨third, twice, parked⟩
  refine ⟨third, ?_, parked⟩
  have split : firstCalls = quietly (.store 1 (.filled 1)) ::
      ([quietly (.store 2 .zero), quietly (.invalidate 2)] ++
        [quietly (.store 2 .zero), quietly (.invalidate 2)]) := rfl
  have fates : firstFates ++ rest = calmly .answered :: calmly .answered ::
      (List.replicate 6 (calmly .answered) ++ rest) := rfl
  rw [split, fates, Transition.run_cons_of_step _ stored, Transition.run_append, once]
  exact twice

/-- The counter of the server has come round, and offset 0 is given out again. -/
def lastCalls : List (CallEnv × Call) := [.store 2 (.filled 2), .load 1].map quietly

def lastFates : List Fate := List.replicate 3 (calmly .answered)

open Session in
theorem Parked.collide {last : Option ℕ} {used : ℕ} (below : used < 2 ^ 64 - 1)
    (parked : Parked session ⟨some 0, 0, last⟩ (onlyPage used (2 ^ 64)) lastFates) :
    ∃ final earlier, Transition.run step session lastCalls = some final ∧
      final.log = earlier ++ [⟨.load 1, .page (.filled 2), none⟩] ∧
      Latest earlier 1 (.filled 1) := by
  have allocated := allocOffset_onlyPage used (2 ^ 64) below
  have wrapped : PageHandle.new 0 (UInt64.ofNat (2 ^ 64)) = some ⟨0⟩ := by decide
  have stored : (onlyPage used (2 ^ 64)).allocOffset.2.store (PageHandle.mk 0).offset (.filled 2) =
      (true, { onlyPage (used + 1) (2 ^ 64 + 1) with
        pages := AList.singleton 0 (.filled 2) }) := by
    rw [allocated]
    rfl
  rcases parked.storeSecond (used_onlyPage _ below) wrapped (congrArg Prod.fst stored) with
    ⟨middle, granted, stepped, only, policy, latest⟩
  rcases parked.first with ⟨entry, wasListed, isSlot, onBackend⟩
  have listed : middle.engine.policy.lookup 1 = some entry := by
    rw [policy, Engine.lookup_recordStore, if_neg (by decide)]
    exact wasListed
  have found : (AList.singleton 0 (.filled 2) : HashMap UInt64 PageBuffer).lookup
      entry.handle.offset = some (.filled 2) := by
    rw [isSlot]
    rfl
  rw [stored] at only
  have loaded := Engine.loadPage_of_answered only listed onBackend
    (loadPage_held (TcpLink.obtainStream_open _ _ _ rfl) found) ⟨0, .listed TrackedPage⟩
  have ran := (Transition.run_cons_of_step [quietly (.load 1)] stepped).trans
    (Transition.run_cons_of_step [] (step_of_loaded loaded))
  exact ⟨_, middle.log, ran, rfl, latest⟩

def spinRounds : ℕ := 2 ^ 64 - 3

/-- Nearly all offsets which the server has are lost together with the replies which carry them;
then the counter comes round, and the page of offset 1 is overwritten. -/
theorem page_overwritten_when_offsets_run_out :
    ∃ session earlier, Transition.run Session.step
        (.remote 0 "server" 2 serverPages (firstFates ++ (spinFates spinRounds ++ lastFates)))
        (firstCalls ++ (spinCalls spinRounds ++ lastCalls)) = some session ∧
      session.log = earlier ++ [⟨.load 1, .page (.filled 2), none⟩] ∧
      Session.Latest earlier 1 (.filled 1) ∧ ¬LoadsLatest session.log := by
  rcases parked_first (spinFates spinRounds ++ lastFates) with ⟨first, ranFirst, parked⟩
  have within : 1 + spinRounds ≤ 2 ^ 64 - 1 := by
    unfold spinRounds
    omega
  rcases parked.spins spinRounds within with ⟨second, last, spun, parked⟩
  have wrapped : 3 + spinRounds = 2 ^ 64 := by
    unfold spinRounds
    omega
  rw [wrapped] at parked
  rcases parked.collide (by unfold spinRounds; omega) with ⟨final, earlier, ran, logged, latest⟩
  refine ⟨final, earlier, ?_, logged, latest, ?_⟩
  · rw [Transition.run_append, ranFirst, Option.bind_some, Transition.run_append, spun]
    exact ran
  · intro latestAll
    rcases latestAll earlier _ [] logged 1 (.filled 2) rfl rfl with ⟨handle, evicted, isLast⟩
    rcases latest with ⟨other, victim, wasLast⟩
    rw [wasLast] at isLast
    have same : PageBuffer.filled 1 = PageBuffer.filled 2 := by
      simpa using congrArg Event.call (Option.some.inj isLast)
    exact PageBuffer.filled_ne (by decide) same

end Duvm.Daemon
