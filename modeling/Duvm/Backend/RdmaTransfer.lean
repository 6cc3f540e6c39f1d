import Duvm.Backend.Rdma

/-!
# Completions of RDMA transfers

`rdma_transfer` of `duvm-backend-rdma/src/lib.rs` in the steps which the network
card can interleave with: a call stages its page in the one local buffer, posts
a work request and polls the completion queue until it finds a completion, an
error, or five seconds have passed. The card completes the work requests in the
order in which they were posted, whenever it likes, and copies the page at that
moment. All work requests carry the same `wr_id`, and the first completion found
is taken for the call's own.

The state has two books beside it: how many transfers were given up with their
completion still to come, and what each call returned.
-/

namespace Duvm

open RdmaBackend (remoteOffset)

inductive RdmaRequest where
  | store (handle : PageHandle) (data : PageBuffer)
  | load (handle : PageHandle)

def RdmaRequest.handle : RdmaRequest → PageHandle
  | .store handle _ => handle
  | .load handle => handle

def RdmaRequest.isWrite : RdmaRequest → Bool
  | .store .. => true
  | .load .. => false

/-- A posted work request; `serial` is its place in the order of posting. -/
structure WorkRequest where
  serial : ℕ
  isWrite : Bool
  offset : UInt64
deriving DecidableEq

/-- An entry of the completion queue, with the work request which it completes. -/
structure Completion where
  serial : ℕ
  success : Bool
deriving DecidableEq

inductive TransferError where
  | postSendFailed
  | transferFailed
  | pollCqError
  | timedOut
deriving DecidableEq

/-- How a transfer succeeded: its own work request, the one whose completion it consumed, the
page it was given or returned, the page at the other end, and how many transfers had been given
up before. -/
structure Receipt where
  own : ℕ
  consumed : ℕ
  data : PageBuffer
  remote : PageBuffer
  abandoned : ℕ

/-- The completion was the transfer's own, and the page is the one at the other end. -/
def Receipt.Right (receipt : Receipt) : Prop :=
  receipt.consumed = receipt.own ∧ receipt.data = receipt.remote

/-- Where a call stands. -/
inductive TransferPhase where
  | idle
  | staged (request : RdmaRequest)
  | polling (request : RdmaRequest) (own : ℕ)
  | copying (handle : PageHandle) (own consumed : ℕ)

structure RdmaConnection where
  state : RdmaState
  localBuf : PageBuffer
  sendQueue : List WorkRequest
  completions : List Completion
  phase : TransferPhase
  posts : ℕ
  abandoned : ℕ
  returned : List (RdmaRequest × Except TransferError Receipt)

inductive TransferAction where
  | call (request : RdmaRequest)
  | postSend (accepted : Bool)
  | complete (success : Bool)
  | pollCq
  | pollCqError
  | timeOut
  | copyOut

namespace RdmaConnection

def start (state : RdmaState) (localBuf : PageBuffer) : RdmaConnection :=
  ⟨state, localBuf, [], [], .idle, 0, 0, []⟩

/-- The page of a handle at the other end. -/
def remotePage (connection : RdmaConnection) (handle : PageHandle) : PageBuffer :=
  RdmaBackend.rdmaRead connection.state (remoteOffset handle.offset)

/-- `store_page` copies the page to the local buffer before it posts. -/
def stage (connection : RdmaConnection) : RdmaRequest → RdmaConnection
  | .store handle data =>
      { connection with localBuf := data, phase := .staged (.store handle data) }
  | .load handle => { connection with phase := .staged (.load handle) }

def fail (connection : RdmaConnection) (request : RdmaRequest) (error : TransferError) :
    RdmaConnection :=
  { connection with
    phase := .idle
    returned := connection.returned ++ [(request, .error error)] }

/-- The transfer ends without having consumed a completion. -/
def abandon (connection : RdmaConnection) (request : RdmaRequest) (error : TransferError) :
    RdmaConnection :=
  { connection.fail request error with abandoned := connection.abandoned + 1 }

def succeed (connection : RdmaConnection) (request : RdmaRequest) (own consumed : ℕ)
    (data : PageBuffer) : RdmaConnection :=
  { connection with
    phase := .idle
    returned := connection.returned ++
      [(request, .ok ⟨own, consumed, data, connection.remotePage request.handle,
        connection.abandoned⟩)] }

def workRequest (request : RdmaRequest) (serial : ℕ) : WorkRequest :=
  ⟨serial, request.isWrite, remoteOffset request.handle.offset⟩

def post (connection : RdmaConnection) (request : RdmaRequest) : RdmaConnection :=
  { connection with
    sendQueue := connection.sendQueue ++ [workRequest request connection.posts]
    phase := .polling request connection.posts
    posts := connection.posts + 1 }

/-- The card completes the oldest work request: it copies the page between the local buffer and
the other end, and adds an entry to the completion queue. -/
def complete (connection : RdmaConnection) (work : WorkRequest) (rest : List WorkRequest)
    (success : Bool) : RdmaConnection :=
  { connection with
    state :=
      if success && work.isWrite then
        RdmaBackend.rdmaWrite connection.state work.offset connection.localBuf
      else connection.state
    localBuf :=
      if success && !work.isWrite then RdmaBackend.rdmaRead connection.state work.offset
      else connection.localBuf
    sendQueue := rest
    completions := connection.completions ++ [⟨work.serial, success⟩] }

/-- `ibv_poll_cq` returns the oldest entry of the queue. -/
def consume (connection : RdmaConnection) (rest : List Completion) : RdmaConnection :=
  { connection with completions := rest }

def step (connection : RdmaConnection) : TransferAction → Option RdmaConnection
  | .call request =>
      match connection.phase with
      | .idle => some (connection.stage request)
      | _ => none
  | .postSend accepted =>
      match connection.phase with
      | .staged request =>
          if accepted then some (connection.post request)
          else some (connection.fail request .postSendFailed)
      | _ => none
  | .complete success =>
      match connection.sendQueue with
      | [] => none
      | work :: rest => some (connection.complete work rest success)
  | .pollCq =>
      match connection.phase, connection.completions with
      | .polling request own, first :: rest =>
          let consumed := connection.consume rest
          if first.success then
            match request with
            | .store _ data => some (consumed.succeed request own first.serial data)
            | .load handle => some { consumed with phase := .copying handle own first.serial }
          else some (consumed.fail request .transferFailed)
      | _, _ => none
  | .pollCqError =>
      match connection.phase with
      | .polling request _ => some (connection.abandon request .pollCqError)
      | _ => none
  | .timeOut =>
      -- the clock is looked at after a poll which found nothing
      match connection.phase, connection.completions with
      | .polling request _, [] => some (connection.abandon request .timedOut)
      | _, _ => none
  | .copyOut =>
      match connection.phase with
      | .copying handle own consumed =>
          some (connection.succeed (.load handle) own consumed connection.localBuf)
      | _ => none

/-- What a step can do. -/
inductive Stepped (connection : RdmaConnection) : TransferAction → RdmaConnection → Prop
  | staged (request : RdmaRequest) (isPhase : connection.phase = .idle) :
      Stepped connection (.call request) (connection.stage request)
  | posted (request : RdmaRequest) (isPhase : connection.phase = .staged request) :
      Stepped connection (.postSend true) (connection.post request)
  | refused (request : RdmaRequest) (isPhase : connection.phase = .staged request) :
      Stepped connection (.postSend false) (connection.fail request .postSendFailed)
  | completed (work : WorkRequest) (rest : List WorkRequest) (success : Bool)
      (isQueue : connection.sendQueue = work :: rest) :
      Stepped connection (.complete success) (connection.complete work rest success)
  | stored (handle : PageHandle) (data : PageBuffer) (own serial : ℕ) (rest : List Completion)
      (isPhase : connection.phase = .polling (.store handle data) own)
      (isQueue : connection.completions = ⟨serial, true⟩ :: rest) :
      Stepped connection .pollCq
        ((connection.consume rest).succeed (.store handle data) own serial data)
  | loaded (handle : PageHandle) (own serial : ℕ) (rest : List Completion)
      (isPhase : connection.phase = .polling (.load handle) own)
      (isQueue : connection.completions = ⟨serial, true⟩ :: rest) :
      Stepped connection .pollCq
        { connection.consume rest with phase := .copying handle own serial }
  | failed (request : RdmaRequest) (own serial : ℕ) (rest : List Completion)
      (isPhase : connection.phase = .polling request own)
      (isQueue : connection.completions = ⟨serial, false⟩ :: rest) :
      Stepped connection .pollCq
        ((connection.consume rest).fail request .transferFailed)
  | pollFailed (request : RdmaRequest) (own : ℕ)
      (isPhase : connection.phase = .polling request own) :
      Stepped connection .pollCqError (connection.abandon request .pollCqError)
  | timedOut (request : RdmaRequest) (own : ℕ)
      (isPhase : connection.phase = .polling request own)
      (isQueue : connection.completions = []) :
      Stepped connection .timeOut (connection.abandon request .timedOut)
  | copied (handle : PageHandle) (own consumed : ℕ)
      (isPhase : connection.phase = .copying handle own consumed) :
      Stepped connection .copyOut
        (connection.succeed (.load handle) own consumed connection.localBuf)

theorem stepped_of_step {connection next : RdmaConnection} {action : TransferAction}
    (stepped : connection.step action = some next) : connection.Stepped action next := by
  cases action with
  | call request =>
      simp only [step] at stepped
      split at stepped
      · next isPhase =>
          rcases Option.some.inj stepped with rfl
          exact .staged request isPhase
      · cases stepped
  | postSend accepted =>
      simp only [step] at stepped
      split at stepped
      · next request isPhase =>
          cases accepted with
          | true =>
              rcases Option.some.inj stepped with rfl
              exact .posted request isPhase
          | false =>
              rcases Option.some.inj stepped with rfl
              exact .refused request isPhase
      · cases stepped
  | complete success =>
      simp only [step] at stepped
      split at stepped
      · cases stepped
      · next work rest isQueue =>
          rcases Option.some.inj stepped with rfl
          exact .completed work rest success isQueue
  | pollCq =>
      simp only [step] at stepped
      split at stepped
      · next request own first rest isPhase isQueue =>
          rcases first with ⟨serial, _ | _⟩
          · rcases Option.some.inj stepped with rfl
            exact .failed request own serial rest isPhase isQueue
          · cases request with
            | store handle data =>
                rcases Option.some.inj stepped with rfl
                exact .stored handle data own serial rest isPhase isQueue
            | load handle =>
                rcases Option.some.inj stepped with rfl
                exact .loaded handle own serial rest isPhase isQueue
      · cases stepped
  | pollCqError =>
      simp only [step] at stepped
      split at stepped
      · next request own isPhase =>
          rcases Option.some.inj stepped with rfl
          exact .pollFailed request own isPhase
      · cases stepped
  | timeOut =>
      simp only [step] at stepped
      split at stepped
      · next request own isPhase isQueue =>
          rcases Option.some.inj stepped with rfl
          exact .timedOut request own isPhase isQueue
      · cases stepped
  | copyOut =>
      simp only [step] at stepped
      split at stepped
      · next handle own consumed isPhase =>
          rcases Option.some.inj stepped with rfl
          exact .copied handle own consumed isPhase
      · cases stepped

/-- The work requests whose completion no call has consumed, oldest first. -/
def outstanding (connection : RdmaConnection) : List ℕ :=
  connection.completions.map Completion.serial ++ connection.sendQueue.map WorkRequest.serial

/-- The work requests outstanding in a phase: one for every abandoned transfer, and behind them
the one of the transfer under way. -/
def Queued (outstanding : List ℕ) (posts abandoned : ℕ) : TransferPhase → Prop
  | .idle | .staged _ =>
      outstanding.length = abandoned ∧ ∀ serial ∈ outstanding, serial < posts
  | .polling _ own =>
      ∃ older, outstanding = older ++ [own] ∧ older.length = abandoned ∧
        (∀ serial ∈ older, serial < own) ∧ own < posts
  | .copying _ own consumed =>
      outstanding.length = abandoned ∧ (∀ serial ∈ outstanding, serial < posts) ∧
        (consumed = own ↔ abandoned = 0)

/-- The local buffer holds what a store is to write. -/
def Staged (localBuf : PageBuffer) : RdmaRequest → Prop
  | .store _ data => localBuf = data
  | .load _ => True

/-- The page has been transferred. -/
def Done (connection : RdmaConnection) : RdmaRequest → Prop
  | .store handle data => data = connection.remotePage handle
  | .load handle => connection.localBuf = connection.remotePage handle

/-- Where the page of the transfer under way is while no transfer has been abandoned. -/
def Carries (connection : RdmaConnection) : TransferPhase → Prop
  | .idle => True
  | .staged request => Staged connection.localBuf request
  | .polling request own =>
      (connection.sendQueue = [workRequest request own] ∧ connection.completions = [] ∧
        Staged connection.localBuf request) ∨
      (connection.sendQueue = [] ∧ ∃ success, connection.completions = [⟨own, success⟩] ∧
        (success = true → connection.Done request))
  | .copying handle _ _ => connection.Done (.load handle)

/-- The receipts are right up to the first abandoned transfer, and wrong behind it. -/
def ReceiptsRight (returned : List (RdmaRequest × Except TransferError Receipt)) : Prop :=
  ∀ request receipt, (request, Except.ok receipt) ∈ returned →
    (receipt.Right ↔ receipt.abandoned = 0)

structure Inv (connection : RdmaConnection) : Prop where
  queued : Queued connection.outstanding connection.posts connection.abandoned connection.phase
  carries : connection.abandoned = 0 → connection.Carries connection.phase
  receipts : ReceiptsRight connection.returned

/-- No transfer is under way; every outstanding work request is of an abandoned one. -/
structure Settled (connection : RdmaConnection) : Prop where
  counted : connection.outstanding.length = connection.abandoned
  bounded : ∀ serial ∈ connection.outstanding, serial < connection.posts
  receipts : ReceiptsRight connection.returned

theorem inv_start (state : RdmaState) (localBuf : PageBuffer) : (start state localBuf).Inv :=
  ⟨⟨rfl, nofun⟩, fun _ => trivial, nofun⟩

variable {connection : RdmaConnection} {request : RdmaRequest}

/-- A completion moves a work request from one queue to the other. -/
theorem outstanding_complete {work : WorkRequest} {rest : List WorkRequest} (success : Bool)
    (isQueue : connection.sendQueue = work :: rest) :
    (connection.complete work rest success).outstanding = connection.outstanding := by
  simp [outstanding, complete, isQueue]

variable {own : ℕ}

/-- Polling consumes the oldest outstanding completion, which is the transfer's own if and only
if nothing was abandoned before. -/
theorem consumed_of_queued {older rest : List ℕ} {serial abandoned : ℕ}
    (isOutstanding : serial :: rest = older ++ [own]) (isCount : older.length = abandoned)
    (earlier : ∀ serial ∈ older, serial < own) :
    rest.length = abandoned ∧ (∀ serial ∈ rest, serial ≤ own) ∧
      (serial = own ↔ abandoned = 0) := by
  cases older with
  | nil =>
      simp only [List.nil_append, List.cons.injEq] at isOutstanding
      rcases isOutstanding with ⟨rfl, rfl⟩
      subst isCount
      simp
  | cons oldest older =>
      simp only [List.cons_append, List.cons.injEq] at isOutstanding
      rcases isOutstanding with ⟨rfl, rfl⟩
      subst isCount
      refine ⟨by simp, ?_, ?_⟩
      · intro other isOther
        rcases List.mem_append.mp isOther with old | new
        · exact (earlier other (List.mem_cons_of_mem _ old)).le
        · exact (List.mem_singleton.mp new).le
      · have less := earlier serial List.mem_cons_self
        simp only [List.length_cons]
        omega

/-- The queue of a polling transfer once it has consumed a completion. -/
theorem Inv.consumed (inv : connection.Inv) {serial : ℕ} {success : Bool} {rest : List Completion}
    (isPhase : connection.phase = .polling request own)
    (isQueue : connection.completions = ⟨serial, success⟩ :: rest) :
    (connection.consume rest).Settled ∧ (serial = own ↔ connection.abandoned = 0) := by
  have queued := inv.queued
  rw [isPhase] at queued
  rcases queued with ⟨older, isOutstanding, isCount, earlier, isPosted⟩
  simp only [outstanding, isQueue, List.map_cons, List.cons_append] at isOutstanding
  rcases consumed_of_queued isOutstanding isCount earlier with ⟨counted, bounded, isOwn⟩
  refine ⟨⟨counted, ?_, inv.receipts⟩, isOwn⟩
  intro other isOther
  exact (bounded other isOther).trans_lt isPosted

/-- A successful completion of a transfer behind no abandoned one tells that it is done. -/
theorem Inv.done (inv : connection.Inv) {serial : ℕ} {rest : List Completion}
    (none : connection.abandoned = 0) (isPhase : connection.phase = .polling request own)
    (isQueue : connection.completions = ⟨serial, true⟩ :: rest) : connection.Done request := by
  have carries := inv.carries none
  rw [isPhase] at carries
  rcases carries with ⟨-, empty, -⟩ | ⟨-, success, isOnly, done⟩
  · rw [isQueue] at empty
    cases empty
  · rw [isQueue] at isOnly
    simp only [List.cons.injEq, Completion.mk.injEq] at isOnly
    exact done isOnly.1.2.symm

theorem ReceiptsRight.concat {returned : List (RdmaRequest × Except TransferError Receipt)}
    (right : ReceiptsRight returned) {outcome : Except TransferError Receipt}
    (last : ∀ receipt, outcome = .ok receipt → (receipt.Right ↔ receipt.abandoned = 0)) :
    ReceiptsRight (returned ++ [(request, outcome)]) := by
  intro other receipt isReturned
  rcases List.mem_append.mp isReturned with old | new
  · exact right other receipt old
  · simp only [List.mem_singleton, Prod.mk.injEq] at new
    exact last receipt new.2.symm

theorem Inv.stage (inv : connection.Inv) (isPhase : connection.phase = .idle)
    (request : RdmaRequest) :
    (connection.stage request).Inv := by
  have queued := inv.queued
  rw [isPhase] at queued
  cases request with
  | store handle data => exact ⟨queued, fun _ => rfl, inv.receipts⟩
  | load handle => exact ⟨queued, fun _ => trivial, inv.receipts⟩

theorem Inv.post (inv : connection.Inv) (isPhase : connection.phase = .staged request) :
    (connection.post request).Inv := by
  have queued := inv.queued
  rw [isPhase] at queued
  rcases queued with ⟨isCount, earlier⟩
  refine ⟨⟨connection.outstanding, ?_, isCount, earlier, Nat.lt_succ_self _⟩, ?_, inv.receipts⟩
  · simp [outstanding, RdmaConnection.post, workRequest]
  · intro none
    have carries := inv.carries none
    rw [isPhase] at carries
    have empty : connection.outstanding = [] :=
      List.eq_nil_of_length_eq_zero (isCount.trans none)
    simp only [outstanding, List.append_eq_nil_iff, List.map_eq_nil_iff] at empty
    refine .inl ⟨?_, empty.1, carries⟩
    simp [RdmaConnection.post, empty.2]

theorem Settled.fail (settled : connection.Settled) (request : RdmaRequest)
    (error : TransferError) : (connection.fail request error).Inv :=
  ⟨⟨settled.counted, settled.bounded⟩, fun _ => trivial, settled.receipts.concat nofun⟩

theorem Inv.abandon (inv : connection.Inv) (isPhase : connection.phase = .polling request own)
    (error : TransferError) :
    (connection.abandon request error).Inv := by
  have queued := inv.queued
  rw [isPhase] at queued
  rcases queued with ⟨older, isOutstanding, isCount, earlier, isPosted⟩
  refine ⟨⟨?_, ?_⟩, fun _ => trivial, inv.receipts.concat nofun⟩
  · change connection.outstanding.length = _
    simp [isOutstanding, isCount, RdmaConnection.abandon]
  · intro serial isSerial
    change serial ∈ connection.outstanding at isSerial
    rw [isOutstanding] at isSerial
    rcases List.mem_append.mp isSerial with old | new
    · exact (earlier serial old).trans isPosted
    · exact List.mem_singleton.mp new ▸ isPosted

theorem Settled.succeed (settled : connection.Settled) {consumed : ℕ} {data : PageBuffer}
    (isOwn : consumed = own ↔ connection.abandoned = 0)
    (done : connection.abandoned = 0 → data = connection.remotePage request.handle) :
    (connection.succeed request own consumed data).Inv := by
  refine ⟨⟨settled.counted, settled.bounded⟩, fun _ => trivial, settled.receipts.concat ?_⟩
  rintro receipt ⟨⟩
  exact ⟨fun right => isOwn.mp right.1, fun none => ⟨isOwn.mpr none, done none⟩⟩

/-- Completing the work request of a transfer finishes it. -/
theorem done_of_complete (rest : List WorkRequest) (staged : Staged connection.localBuf request) :
    (connection.complete (workRequest request own) rest true).Done request := by
  cases request with
  | store handle data =>
      subst staged
      exact (readPage_write_self _ _ _).symm
  | load handle =>
      simp [Done, complete, workRequest, remotePage, RdmaRequest.isWrite, RdmaRequest.handle]

theorem Inv.complete (inv : connection.Inv) {work : WorkRequest} {rest : List WorkRequest}
    (success : Bool) (isQueue : connection.sendQueue = work :: rest) :
    (connection.complete work rest success).Inv := by
  refine ⟨?_, ?_, inv.receipts⟩
  · rw [outstanding_complete success isQueue]
    exact inv.queued
  · intro none
    have carries := inv.carries none
    change (connection.complete work rest success).Carries connection.phase
    -- while nothing is abandoned, only a polling transfer has a work request outstanding
    have queued := inv.queued
    cases isPhase : connection.phase with
    | idle => trivial
    | staged request | copying handle own consumed =>
        rw [isPhase] at queued
        have empty := List.eq_nil_of_length_eq_zero (queued.1.trans none)
        simp [outstanding, isQueue] at empty
    | polling request own =>
        rw [isPhase] at carries
        rcases carries with ⟨isOnly, empty, staged⟩ | ⟨empty, -⟩
        · rw [isQueue] at isOnly
          simp only [List.cons.injEq] at isOnly
          rcases isOnly with ⟨rfl, rfl⟩
          refine .inr ⟨rfl, success, ?_, ?_⟩
          · simp [RdmaConnection.complete, empty, workRequest]
          · rintro rfl
            exact done_of_complete [] staged
        · rw [isQueue] at empty
          cases empty

theorem Inv.stepped {connection next : RdmaConnection} {action : TransferAction}
    (inv : connection.Inv) (stepped : connection.Stepped action next) : next.Inv := by
  cases stepped with
  | staged request isPhase => exact inv.stage isPhase request
  | posted request isPhase => exact inv.post isPhase
  | refused request isPhase =>
      have queued := inv.queued
      rw [isPhase] at queued
      exact Settled.fail ⟨queued.1, queued.2, inv.receipts⟩ request _
  | completed work rest success isQueue => exact inv.complete success isQueue
  | stored handle data own serial rest isPhase isQueue =>
      rcases inv.consumed isPhase isQueue with ⟨settled, isOwn⟩
      apply settled.succeed isOwn
      intro none
      exact inv.done none isPhase isQueue
  | loaded handle own serial rest isPhase isQueue =>
      rcases inv.consumed isPhase isQueue with ⟨settled, isOwn⟩
      refine ⟨⟨settled.counted, settled.bounded, isOwn⟩, ?_, settled.receipts⟩
      intro none
      exact inv.done none isPhase isQueue
  | failed request own serial rest isPhase isQueue =>
      exact (inv.consumed isPhase isQueue).1.fail request _
  | pollFailed request own isPhase => exact inv.abandon isPhase _
  | timedOut request own isPhase _ => exact inv.abandon isPhase _
  | copied handle own consumed isPhase =>
      have queued := inv.queued
      have carries := inv.carries
      rw [isPhase] at queued carries
      rcases queued with ⟨counted, bounded, isOwn⟩
      exact Settled.succeed ⟨counted, bounded, inv.receipts⟩ isOwn carries

/-- The transfers which succeed in a run are right, all of them, if and only if none of them
comes after a transfer which was abandoned. -/
theorem right_iff_none_abandoned (state : RdmaState) (localBuf : PageBuffer)
    (actions : List TransferAction) (final : RdmaConnection)
    (reached : Transition.run step (start state localBuf) actions = some final) :
    (∀ request receipt, (request, Except.ok receipt) ∈ final.returned → receipt.Right) ↔
      ∀ request receipt, (request, Except.ok receipt) ∈ final.returned →
        receipt.abandoned = 0 := by
  have inv : final.Inv := by
    apply Transition.run_invariant (inv_start state localBuf) ?_ reached
    intro connection action next inv stepped
    exact inv.stepped (stepped_of_step stepped)
  constructor
  · intro right request receipt isReturned
    exact (inv.receipts request receipt isReturned).mp (right request receipt isReturned)
  · intro none request receipt isReturned
    exact (inv.receipts request receipt isReturned).mpr (none request receipt isReturned)

/-- Slot 0 holds zeros and slot 1 ones. -/
def twoSlots : RdmaState :=
  ⟨0, fun location => if location < 4096 then 0 else 1⟩

/-- A load which succeeds. -/
def loadOf (slot : UInt64) : List TransferAction :=
  [.call (.load (RdmaClient.slotHandle slot)), .postSend true, .complete true, .pollCq, .copyOut]

/-- Two loads succeed; then one times out, and the next one is posted while it is outstanding. -/
def loadsAndTimeout : List TransferAction :=
  loadOf 1 ++ loadOf 0 ++
    [.call (.load (RdmaClient.slotHandle 1)), .postSend true, .timeOut,
      .call (.load (RdmaClient.slotHandle 0)), .postSend true]

theorem loads_right_before_timeout :
    ∃ final, Transition.run step (start twoSlots .zero) loadsAndTimeout = some final ∧
      final.outstanding.length = 2 ∧
      ∀ request receipt, (request, Except.ok receipt) ∈ final.returned → receipt.Right := by
  have ran : ∃ final, Transition.run step (start twoSlots .zero) loadsAndTimeout = some final ∧
      final.outstanding.length = 2 ∧
      final.returned.map (fun entry => entry.2.toOption.map Receipt.abandoned) =
        [some 0, some 0, none] := ⟨_, rfl, rfl, rfl⟩
  rcases ran with ⟨final, reached, outstanding, counts⟩
  refine ⟨final, reached, outstanding,
    (right_iff_none_abandoned twoSlots .zero loadsAndTimeout final reached).mpr ?_⟩
  intro request receipt isReturned
  have counted : some receipt.abandoned ∈ [some 0, some 0, none] := by
    rw [← counts]
    exact List.mem_map_of_mem isReturned
  simpa using counted

/-- A load of slot 0 times out and completes late; then slot 1 is loaded. -/
def lateCompletion : List TransferAction :=
  [.call (.load (RdmaClient.slotHandle 0)), .postSend true, .timeOut, .complete true,
    .call (.load (RdmaClient.slotHandle 1)), .postSend true, .pollCq, .copyOut]

/-- The load of slot 1 returns the page of slot 0. -/
theorem load_of_wrong_page :
    ∃ final receipt, Transition.run step (start twoSlots .zero) lateCompletion = some final ∧
      (RdmaRequest.load (RdmaClient.slotHandle 1), Except.ok receipt) ∈ final.returned ∧
      receipt.consumed ≠ receipt.own ∧ receipt.data = .filled 0 ∧
      receipt.remote = .filled 1 := by
  refine ⟨_, _, rfl, List.mem_cons_of_mem _ (List.mem_singleton.mpr rfl), by decide, ?_, ?_⟩
  · apply readPage_eq_filled
    intro index inPage
    exact if_pos (show 0 + index < 4096 from (Nat.zero_add index).symm ▸ inPage)
  · apply readPage_eq_filled
    intro index _
    exact if_neg (show ¬ 4096 + index < 4096 by omega)

end RdmaConnection

end Duvm
