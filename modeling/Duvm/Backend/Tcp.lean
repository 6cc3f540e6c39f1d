import Duvm.Memserver.Protocol

/-!
# The TCP backend

`TcpBackend` of `duvm-backend-tcp/src/lib.rs` together with the memory server at
the other end. A request is one call of the page store, or fails with an I/O
error when the connection is cut. In the latter case it may have been lost, it
may have been served and only the reply was lost, or it may be served later on
by the thread of the dropped connection. The server may restart at any time,
which leaves it with an empty page store and breaks all connections.

What happens around the program is written down in advance: every use of the
connection takes the next `Fate` from a list. Between two uses nothing of it can
be seen.
-/

namespace Duvm

open Memserver (PageStore)
open Tcp (Operation allocReply storeReply loadReply freeReply)

/-- The memory server: its page store, the number of times it was restarted, and the requests
of dropped connections which it has received and not served yet. The number of offsets which it
has given out since the first start is kept for the record. -/
structure MemoryServer where
  store : PageStore
  lifetime : ℕ
  stragglers : List Operation
  granted : ℕ

/-- What may happen to the server while it is not used. -/
inductive Incident where
  | restart
  | straggler (index : ℕ)

namespace MemoryServer

def start (maxPages : UInt64) : MemoryServer := ⟨.new maxPages, 0, [], 0⟩

/-- The number of offsets which the store gives out for a request. -/
def grants (store : PageStore) : Operation → ℕ
  | .alloc => if store.allocOffset.1.isSome then 1 else 0
  | _ => 0

def serve (server : MemoryServer) (operation : Operation) : MemoryServer :=
  { server with
    store := operation.after server.store
    granted := server.granted + grants server.store operation }

def restart (server : MemoryServer) : MemoryServer :=
  { server with
    store := .new server.store.maxPages
    lifetime := server.lifetime + 1
    stragglers := [] }

/-- The server gets round to a request of a dropped connection. -/
def serveStraggler (server : MemoryServer) (index : ℕ) : MemoryServer :=
  match server.stragglers[index]? with
  | none => server
  | some operation =>
      { server with stragglers := server.stragglers.eraseIdx index }.serve operation

def incident (server : MemoryServer) : Incident → MemoryServer
  | .restart => server.restart
  | .straggler index => server.serveStraggler index

def delay (server : MemoryServer) (operation : Operation) : MemoryServer :=
  { server with stragglers := server.stragglers ++ [operation] }

end MemoryServer

/-- What happens to a request on an unbroken connection. -/
inductive Delivery where
  | answered
  | requestLost
  | replyLost
  | delayed
deriving DecidableEq

/-- The ways in which `TcpStream::connect_timeout` and `set_nodelay` may end: both succeed, the
first one fails, or only the second one does. -/
inductive Attempt where
  | connected
  | refused
  | unusable

structure Fate where
  incidents : List Incident
  now : ℕ
  attempt : Attempt
  delivery : Delivery

/-- Nothing works. -/
def Fate.unreachable : Fate := ⟨[], 0, .refused, .requestLost⟩

namespace TcpBackend

def MAX_CONSECUTIVE_FAILURES : UInt32 := 5

def BACKOFF_SECS : ℕ := 5

/-- `BACKOFF_SECS` in the unit of the clock. -/
def backoff : ℕ := BACKOFF_SECS * 1000000000

end TcpBackend

/-- Connection state. A stream is named by the lifetime of the server it was opened in. -/
structure ConnState where
  stream : Option ℕ
  consecutiveFailures : UInt32
  lastAttempt : Option ℕ

structure TcpBackend where
  conn : ConnState
  addr : String
  backendId : UInt8
  maxPages : UInt64
  pagesUsed : UInt64

namespace TcpBackend

/-- The backend after `new` and `init`. -/
def connected (backendId : UInt8) (addr : String) (maxPages : UInt64) (lifetime : ℕ) :
    TcpBackend :=
  { conn := { stream := some lifetime, consecutiveFailures := 0, lastAttempt := none }
    addr, backendId, maxPages, pagesUsed := 0 }

/-- Too many recent failures. -/
def circuitBreakerOpen (state : ConnState) (now : ℕ) : Bool :=
  decide (state.consecutiveFailures ≥ MAX_CONSECUTIVE_FAILURES) &&
    state.lastAttempt.any fun last => decide (now - last < backoff)

/-- Attempts to establish a new TCP connection, respecting the circuit breaker. -/
def tryReconnect (addr : String) (fate : Fate) (lifetime : ℕ) (state : ConnState) :
    Except DuvmError Unit × ConnState :=
  if circuitBreakerOpen state fate.now then
    (.error (.circuitBreakerOpen addr state.consecutiveFailures), state)
  else
    let state := { state with lastAttempt := some fate.now }
    match fate.attempt with
    | .connected => (.ok (), { state with stream := some lifetime, consecutiveFailures := 0 })
    | .refused => (.error .io, { state with consecutiveFailures := state.consecutiveFailures + 1 })
    | .unusable => (.error .io, state)

/-- The stream which `with_stream` hands to its operation. -/
def obtainStream (addr : String) (fate : Fate) (lifetime : ℕ) (state : ConnState) :
    Except DuvmError ℕ × ConnState :=
  let (ready, state) :=
    if state.stream.isNone then tryReconnect addr fate lifetime state else (.ok (), state)
  match ready, state.stream with
  | .error error, _ => (.error error, state)
  | .ok (), some stream => (.ok stream, state)
  | .ok (), none => (.error (.tcpNotConnected addr), state)

end TcpBackend

/-- The backend, the server, and what will happen around them. -/
structure TcpLink where
  backend : TcpBackend
  server : MemoryServer
  fates : List Fate

namespace TcpLink

open TcpBackend

variable {Answer : Type}

def setUsed (link : TcpLink) (pagesUsed : UInt64) : TcpLink :=
  { link with backend := { link.backend with pagesUsed } }

def fate (link : TcpLink) : Fate := link.fates.headD .unreachable

/-- The server as the next request finds it. -/
def upcoming (link : TcpLink) : MemoryServer :=
  link.fate.incidents.foldl MemoryServer.incident link.server

/-- A request and its reply, on a stream opened in some lifetime of the server. -/
def exchange (server : MemoryServer) (operation : Operation)
    (reply : PageStore → Except DuvmError Answer) (delivery : Delivery) (stream : ℕ) :
    Except DuvmError Answer × MemoryServer :=
  if stream = server.lifetime then
    match delivery with
    | .answered => (reply server.store, server.serve operation)
    | .requestLost => (.error .io, server)
    | .replyLost => (.error .io, server.serve operation)
    | .delayed => (.error .io, server.delay operation)
  else (.error .io, server)

def afterUse (link : TcpLink) (conn : ConnState) (server : MemoryServer) : TcpLink :=
  { link with backend := { link.backend with conn }, server, fates := link.fates.tail }

/-- Gets a connected stream, attempting reconnection if disconnected, and uses it; a failure
clears the stream. -/
def withStream (link : TcpLink) (operation : Operation)
    (reply : PageStore → Except DuvmError Answer) : Except DuvmError Answer × TcpLink :=
  match obtainStream link.backend.addr link.fate link.upcoming.lifetime link.backend.conn with
  | (.error error, conn) => (.error error, link.afterUse conn link.upcoming)
  | (.ok stream, conn) =>
      match exchange link.upcoming operation reply link.fate.delivery stream with
      | (.ok answer, server) =>
          (.ok answer, link.afterUse { conn with consecutiveFailures := 0 } server)
      | (.error error, server) =>
          let failures := conn.consecutiveFailures + 1
          (.error error,
            link.afterUse { conn with stream := none, consecutiveFailures := failures } server)

def allocPage (link : TcpLink) : Outcome PageHandle × TcpLink :=
  if link.backend.pagesUsed ≥ link.backend.maxPages then
    (.err (.tcpFull link.backend.maxPages), link)
  else
    match (link.setUsed (link.backend.pagesUsed + 1)).withStream .alloc allocReply with
    | (.error error, link) => (.err error, link.setUsed (link.backend.pagesUsed - 1))
    | (.ok offset, link) =>
        match PageHandle.new link.backend.backendId offset with
        | some handle => (.ok handle, link)
        | none => (.panic, link)

def freePage (link : TcpLink) (handle : PageHandle) : Except DuvmError Unit × TcpLink :=
  match link.withStream (.free handle) (freeReply · handle) with
  | (.error error, link) => (.error error, link)
  | (.ok (), link) => (.ok (), link.setUsed (link.backend.pagesUsed - 1))

def storePage (link : TcpLink) (handle : PageHandle) (data : PageBuffer) :
    Except DuvmError Unit × TcpLink :=
  link.withStream (.store handle data) (storeReply · handle data)

def loadPage (link : TcpLink) (handle : PageHandle) : Except DuvmError PageBuffer × TcpLink :=
  link.withStream (.load handle) (loadReply · handle)

instance : DuvmBackend TcpLink where
  tier _ := .rdma
  allocPage := allocPage
  freePage := freePage
  storePage := storePage
  loadPage := loadPage
  capacity link := (link.backend.maxPages, link.backend.pagesUsed)
  isHealthy link := link.backend.conn.stream.isSome

/-- What can become of a request which finds the server in the given state. It can only reach
the server on a stream which was opened in the same lifetime. -/
inductive Exchanged (server : MemoryServer) (stream : Option ℕ) (operation : Operation)
    (reply : PageStore → Except DuvmError Answer) :
    Except DuvmError Answer → MemoryServer → Prop
  | lost {error : DuvmError} : Exchanged server stream operation reply (.error error) server
  | answered (live : ∀ opened, stream = some opened → opened = server.lifetime) :
      Exchanged server stream operation reply (reply server.store) (server.serve operation)
  | replyLost {error : DuvmError}
      (live : ∀ opened, stream = some opened → opened = server.lifetime) :
      Exchanged server stream operation reply (.error error) (server.serve operation)
  | delayed {error : DuvmError}
      (live : ∀ opened, stream = some opened → opened = server.lifetime) :
      Exchanged server stream operation reply (.error error) (server.delay operation)

theorem exchanged_of_exchange {server : MemoryServer} {stream : Option ℕ} {operation : Operation}
    {reply : PageStore → Except DuvmError Answer} {obtained : ℕ} (delivery : Delivery)
    (same : ∀ opened, stream = some opened → opened = obtained) :
    Exchanged server stream operation reply
      (exchange server operation reply delivery obtained).1
      (exchange server operation reply delivery obtained).2 := by
  unfold exchange
  split
  · next live =>
      rw [live] at same
      cases delivery with
      | answered => exact .answered same
      | requestLost => exact .lost
      | replyLost => exact .replyLost same
      | delayed => exact .delayed same
  · exact .lost

/-- An answer comes from a server of the lifetime in which the stream was opened. -/
theorem live_of_exchange {server after : MemoryServer} {operation : Operation}
    {reply : PageStore → Except DuvmError Answer} {delivery : Delivery} {stream : ℕ}
    {answer : Answer}
    (answered : exchange server operation reply delivery stream = (.ok answer, after)) :
    stream = server.lifetime ∧ reply server.store = .ok answer := by
  unfold exchange at answered
  split at answered
  · next live =>
      refine ⟨live, ?_⟩
      cases delivery with
      | answered => exact congrArg Prod.fst answered
      | requestLost => simp at answered
      | replyLost => simp at answered
      | delayed => simp at answered
  · simp at answered

/-- The stream which is used is the one there was, or a new one; without one, none is kept. -/
theorem obtainStream_spec (addr : String) (fate : Fate) (lifetime : ℕ) (state : ConnState) :
    (∀ obtained conn, obtainStream addr fate lifetime state = (.ok obtained, conn) →
      conn.stream = some obtained ∧ ∀ opened, state.stream = some opened → opened = obtained) ∧
    ∀ error conn, obtainStream addr fate lifetime state = (.error error, conn) →
      conn.stream = none := by
  unfold obtainStream
  cases isOpen : state.stream with
  | some stream => simp [isOpen]
  | none =>
      by_cases breaker : circuitBreakerOpen state fate.now = true
      · simp [tryReconnect, breaker, isOpen]
      · cases tried : fate.attempt with
        | connected => simp [tryReconnect, breaker, tried]
        | refused => simp [tryReconnect, breaker, tried, isOpen]
        | unusable => simp [tryReconnect, breaker, tried, isOpen]

/-- What a use of the connection comes to: the request is exchanged, and the stream is kept only
if it was answered with success. -/
theorem withStream_spec (link : TcpLink) (operation : Operation)
    (reply : PageStore → Except DuvmError Answer) :
    Exchanged link.upcoming link.backend.conn.stream operation reply
        (link.withStream operation reply).1 (link.withStream operation reply).2.server ∧
      (∀ opened, (link.withStream operation reply).2.backend.conn.stream = some opened →
        (∀ earlier, link.backend.conn.stream = some earlier → earlier = opened) ∧
        opened = link.upcoming.lifetime ∧ ∃ answer, reply link.upcoming.store = .ok answer) ∧
      ∀ answer, (link.withStream operation reply).1 = .ok answer →
        ∃ opened, (link.withStream operation reply).2.backend.conn.stream = some opened := by
  have obtained := obtainStream_spec link.backend.addr link.fate link.upcoming.lifetime
    link.backend.conn
  unfold withStream
  cases found : obtainStream link.backend.addr link.fate link.upcoming.lifetime
    link.backend.conn with
  | mk ready conn =>
      cases ready with
      | error error =>
          have closed := obtained.2 error conn found
          refine ⟨.lost, ?_, by simp⟩
          intro opened isOpen
          change conn.stream = some opened at isOpen
          simp [closed] at isOpen
      | ok stream =>
          rcases obtained.1 stream conn found with ⟨used, same⟩
          have exchanged : Exchanged link.upcoming link.backend.conn.stream operation reply _ _ :=
            exchanged_of_exchange link.fate.delivery same
          simp only
          cases ended : exchange link.upcoming operation reply link.fate.delivery stream with
          | mk result server =>
              rw [ended] at exchanged
              cases result with
              | error error =>
                  refine ⟨exchanged, ?_, by simp⟩
                  intro opened isOpen
                  simp [afterUse] at isOpen
              | ok answer =>
                  rcases live_of_exchange ended with ⟨live, replied⟩
                  refine ⟨exchanged, ?_, fun _ _ => ⟨stream, used⟩⟩
                  intro opened isOpen
                  change conn.stream = some opened at isOpen
                  rw [used] at isOpen
                  rw [← Option.some.inj isOpen]
                  exact ⟨same, live, answer, replied⟩

section Counter

variable {link after : TcpLink}

/-- An operation changes nothing of the backend but its connection. -/
theorem backend_withStream (link : TcpLink) (operation : Operation)
    (reply : PageStore → Except DuvmError Answer) :
    ∃ conn, (link.withStream operation reply).2.backend = { link.backend with conn } := by
  unfold withStream
  split
  · exact ⟨_, rfl⟩
  · split
    · exact ⟨_, rfl⟩
    · exact ⟨_, rfl⟩

theorem pagesUsed_withStream (link : TcpLink) (operation : Operation)
    (reply : PageStore → Except DuvmError Answer) :
    (link.withStream operation reply).2.backend.pagesUsed = link.backend.pagesUsed := by
  rcases backend_withStream link operation reply with ⟨conn, same⟩
  rw [same]

theorem maxPages_withStream (link : TcpLink) (operation : Operation)
    (reply : PageStore → Except DuvmError Answer) :
    (link.withStream operation reply).2.backend.maxPages = link.backend.maxPages := by
  rcases backend_withStream link operation reply with ⟨conn, same⟩
  rw [same]

theorem maxPages_allocPage (link : TcpLink) :
    link.allocPage.2.backend.maxPages = link.backend.maxPages := by
  have same := maxPages_withStream (link.setUsed (link.backend.pagesUsed + 1)) .alloc allocReply
  unfold allocPage
  split
  · rfl
  · revert same
    cases (link.setUsed (link.backend.pagesUsed + 1)).withStream .alloc allocReply with
    | mk result after =>
        intro same
        cases result with
        | error error => exact same
        | ok offset =>
            simp only
            split
            · exact same
            · exact same

variable {handle : PageHandle}

/-- A handle given out is counted. -/
theorem pagesUsed_of_allocated (allocated : link.allocPage = (.ok handle, after)) :
    after.backend.pagesUsed.toNat = link.backend.pagesUsed.toNat + 1 := by
  unfold allocPage at allocated
  split at allocated
  · cases allocated
  · next notFull =>
      have room := UInt64.lt_iff_toNat_lt.mp (UInt64.not_le.mp notFull)
      have bound := link.backend.maxPages.toNat_lt
      have used := pagesUsed_withStream (link.setUsed (link.backend.pagesUsed + 1)) .alloc
        allocReply
      split at allocated
      · cases allocated
      · next offset issued answered =>
          rw [answered] at used
          split at allocated
          · rcases allocated with ⟨⟩
            have one : (1 : UInt64).toNat = 1 := rfl
            have counted : (link.backend.pagesUsed + 1).toNat =
                link.backend.pagesUsed.toNat + 1 := by
              rw [UInt64.toNat_add, one]
              omega
            rw [used]
            exact counted
          · cases allocated

/-- A refusal gives back what was counted in advance. -/
theorem pagesUsed_of_denied {error : DuvmError} (refused : link.allocPage = (.err error, after)) :
    after.backend.pagesUsed = link.backend.pagesUsed := by
  unfold allocPage at refused
  split at refused
  · rcases refused with ⟨⟩
    rfl
  · have used := pagesUsed_withStream (link.setUsed (link.backend.pagesUsed + 1)) .alloc
      allocReply
    split at refused
    · next failure failed answered =>
        rw [answered] at used
        rcases refused with ⟨⟩
        have counted : failed.backend.pagesUsed = link.backend.pagesUsed + 1 := used
        simp [setUsed, counted]
    · split at refused
      · cases refused
      · cases refused

/-- A page which is freed is not counted any longer. -/
theorem pagesUsed_of_freed (used : 0 < link.backend.pagesUsed.toNat)
    (freed : link.freePage handle = (.ok (), after)) :
    after.backend.pagesUsed.toNat + 1 = link.backend.pagesUsed.toNat := by
  have same := pagesUsed_withStream link (.free handle) (freeReply · handle)
  unfold freePage at freed
  split at freed
  · cases freed
  · next reached answered =>
      rw [answered] at same
      rcases freed with ⟨⟩
      have least : (1 : UInt64) ≤ link.backend.pagesUsed := UInt64.le_iff_toNat_le.mpr used
      change (reached.backend.pagesUsed - 1).toNat + 1 = _
      rw [same, UInt64.toNat_sub_of_le _ _ least]
      exact Nat.sub_add_cancel used

theorem pagesUsed_of_not_freed {error : DuvmError}
    (failed : link.freePage handle = (.error error, after)) :
    after.backend.pagesUsed = link.backend.pagesUsed := by
  have same := pagesUsed_withStream link (.free handle) (freeReply · handle)
  unfold freePage at failed
  split at failed
  · next answered =>
      rw [answered] at same
      rcases failed with ⟨⟩
      exact same
  · cases failed

end Counter

section Undisturbed

variable {link : TcpLink} {fate : Fate} {rest : List Fate} {conn : ConnState}
  {operation : Operation} {reply : PageStore → Except DuvmError Answer}

theorem obtainStream_open (addr : String) (fate : Fate) (lifetime : ℕ) {stream : ℕ}
    (isOpen : conn.stream = some stream) :
    obtainStream addr fate lifetime conn = (.ok stream, conn) := by
  simp [obtainStream, isOpen]

theorem obtainStream_reconnected (addr : String) (lifetime : ℕ) (closed : conn.stream = none)
    (retried : circuitBreakerOpen conn fate.now = false) (connects : fate.attempt = .connected) :
    obtainStream addr fate lifetime conn = (.ok lifetime, ⟨some lifetime, 0, some fate.now⟩) := by
  simp [obtainStream, tryReconnect, closed, retried, connects]

/-- A request which nothing gets in the way of. -/
theorem withStream_answered {answer : Answer} (conn : ConnState)
    (next : link.fates = fate :: rest) (calm : fate.incidents = [])
    (delivered : fate.delivery = .answered)
    (obtained : obtainStream link.backend.addr fate link.server.lifetime link.backend.conn =
      (.ok link.server.lifetime, conn))
    (replied : reply link.server.store = .ok answer) :
    link.withStream operation reply = (.ok answer,
      { backend := { link.backend with conn := { conn with consecutiveFailures := 0 } }
        server := link.server.serve operation
        fates := rest }) := by
  simp [withStream, exchange, upcoming, TcpLink.fate, afterUse, next, calm, delivered, obtained,
    replied]

/-- A request which is served, and whose reply is lost. -/
theorem withStream_replyLost (conn : ConnState) (next : link.fates = fate :: rest)
    (calm : fate.incidents = []) (delivered : fate.delivery = .replyLost)
    (obtained : obtainStream link.backend.addr fate link.server.lifetime link.backend.conn =
      (.ok link.server.lifetime, conn)) :
    link.withStream operation reply = (.error .io,
      { backend := { link.backend with
          conn := { conn with
            stream := none
            consecutiveFailures := conn.consecutiveFailures + 1 } }
        server := link.server.serve operation
        fates := rest }) := by
  simp [withStream, exchange, upcoming, TcpLink.fate, afterUse, next, calm, delivered, obtained]

theorem allocPage_of_answered {after : TcpLink} {offset : UInt64} {handle : PageHandle}
    (room : link.backend.pagesUsed < link.backend.maxPages)
    (answered : (link.setUsed (link.backend.pagesUsed + 1)).withStream .alloc allocReply =
      (.ok offset, after))
    (created : PageHandle.new after.backend.backendId offset = some handle) :
    link.allocPage = (.ok handle, after) := by
  rw [allocPage, if_neg (UInt64.not_le.mpr room), answered]
  simp only [created]

theorem allocPage_of_failed {after : TcpLink} {error : DuvmError}
    (room : link.backend.pagesUsed < link.backend.maxPages)
    (failed : (link.setUsed (link.backend.pagesUsed + 1)).withStream .alloc allocReply =
      (.error error, after)) :
    link.allocPage = (.err error, after.setUsed (after.backend.pagesUsed - 1)) := by
  rw [allocPage, if_neg (UInt64.not_le.mpr room), failed]

theorem freePage_of_answered {after : TcpLink} {handle : PageHandle}
    (answered : link.withStream (.free handle) (freeReply · handle) = (.ok (), after)) :
    link.freePage handle = (.ok (), after.setUsed (after.backend.pagesUsed - 1)) := by
  rw [freePage, answered]

end Undisturbed

end TcpLink

end Duvm
