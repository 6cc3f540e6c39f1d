import Duvm.Backend.Tcp

/-!
# The TCP backend and an arbitrary peer

`TcpBackend` of `duvm-backend-tcp/src/lib.rs` on the bytes of its stream: the peer
may send anything and may end the stream at any point. The operations run the
programs of the wire protocol; `with_stream` counts failures in 32 bits, and a
build which checks for overflow panics when the counter would wrap.

The one answer which the backend does not survive is an offset which does not fit
a handle: the assertion of `PageHandle::new` fails in the middle of `alloc_page`,
when the page has been counted and nobody is left to take the count back.
-/

namespace Duvm

open ByteStream (Network Pipe Program)
open TcpBackend (MAX_CONSECUTIVE_FAILURES backoff)

/-- A stream with all the bytes which the peer will send on it. -/
structure Socket where
  outgoing : Pipe
  incoming : Pipe

/-- `ConnState` with its stream. -/
structure PeerConn where
  stream : Option Socket
  consecutiveFailures : UInt32
  lastAttempt : Option ℕ

/-- `TcpBackend` with its stream and all of its counters. -/
structure TcpClient where
  conn : PeerConn
  addr : String
  backendId : UInt8
  maxPages : UInt64
  pagesUsed : UInt64
  totalStoreNs : UInt64
  totalLoadNs : UInt64
  storeCount : UInt64
  loadCount : UInt64

/-- What a call depends on besides its arguments: the time, what becomes of an attempt to
connect and the stream it yields, and how long the call takes. An address which cannot be
parsed makes every attempt `unusable`. -/
structure PeerMoment where
  now : ℕ
  attempt : Attempt
  socket : Socket
  elapsed : UInt64

/-- `consecutive_failures += 1`; `none` is the panic of a build with overflow checks. -/
def addFailure (checked : Bool) (failures : UInt32) : Option UInt32 :=
  if checked && failures.toNat + 1 = 2 ^ 32 then none else some (failures + 1)

namespace PeerConn

/-- Too many recent failures. -/
def circuitBreakerOpen (state : PeerConn) (now : ℕ) : Bool :=
  decide (state.consecutiveFailures ≥ MAX_CONSECUTIVE_FAILURES) &&
    state.lastAttempt.any fun last => decide (now - last < backoff)

/-- Attempts to establish a new TCP connection, respecting the circuit breaker. -/
def tryReconnect (checked : Bool) (addr : String) (moment : PeerMoment) (state : PeerConn) :
    Outcome Unit × PeerConn :=
  if state.circuitBreakerOpen moment.now then
    (.err (.circuitBreakerOpen addr state.consecutiveFailures), state)
  else
    let state := { state with lastAttempt := some moment.now }
    match moment.attempt with
    | .connected => (.ok (), { state with stream := some moment.socket, consecutiveFailures := 0 })
    | .unusable => (.err .io, state)
    | .refused =>
        match addFailure checked state.consecutiveFailures with
        | some failures => (.err .io, { state with consecutiveFailures := failures })
        | none => (.panic, state)

/-- The stream which `with_stream` hands to its operation. -/
def obtainStream (checked : Bool) (addr : String) (moment : PeerMoment) (state : PeerConn) :
    Outcome Socket × PeerConn :=
  let (ready, state) :=
    if state.stream.isNone then state.tryReconnect checked addr moment else (.ok (), state)
  match ready, state.stream with
  | .panic, _ => (.panic, state)
  | .err error, _ => (.err error, state)
  | .ok (), some socket => (.ok socket, state)
  | .ok (), none => (.err (.tcpNotConnected addr), state)

end PeerConn

namespace TcpClient

variable {Answer : Type}

/-- Gets a connected stream, attempting reconnection if disconnected, and runs an operation on
it; an error clears the stream, a panic leaves it where it is. -/
def withStream (checked : Bool) (moment : PeerMoment) (client : TcpClient)
    (op : Program Unit (Outcome Answer)) : Outcome Answer × TcpClient :=
  match client.conn.obtainStream checked client.addr moment with
  | (.panic, conn) => (.panic, { client with conn })
  | (.err error, conn) => (.err error, { client with conn })
  | (.ok socket, conn) =>
      match op.finish () socket.outgoing socket.incoming with
      | (.ok answer, _, outgoing, incoming) =>
          let conn := { conn with stream := some ⟨outgoing, incoming⟩, consecutiveFailures := 0 }
          (.ok answer, { client with conn })
      | (.panic, _, outgoing, incoming) =>
          (.panic, { client with conn := { conn with stream := some ⟨outgoing, incoming⟩ } })
      | (.err error, _) =>
          let conn := { conn with stream := none }
          match addFailure checked conn.consecutiveFailures with
          | some failures =>
              (.err error, { client with conn := { conn with consecutiveFailures := failures } })
          | none => (.panic, { client with conn })

def allocPage (checked : Bool) (moment : PeerMoment) (client : TcpClient) :
    Outcome PageHandle × TcpClient :=
  if client.pagesUsed ≥ client.maxPages then (.err (.tcpFull client.maxPages), client)
  else
    match withStream checked moment { client with pagesUsed := client.pagesUsed + 1 }
        (Tcp.allocPage client.backendId) with
    | (.err error, client) => (.err error, { client with pagesUsed := client.pagesUsed - 1 })
    | (result, client) => (result, client)

/-- What follows the `?` behind `with_stream`. -/
def thenChange (result : Outcome Answer × TcpClient) (change : TcpClient → TcpClient) :
    Outcome Answer × TcpClient :=
  match result with
  | (.ok answer, client) => (.ok answer, change client)
  | (.err error, client) => (.err error, client)
  | (.panic, client) => (.panic, client)

@[simp]
theorem fst_thenChange (result : Outcome Answer × TcpClient) (change : TcpClient → TcpClient) :
    (thenChange result change).1 = result.1 := by
  rcases result with ⟨result, client⟩
  cases result with
  | ok answer => rfl
  | err error => rfl
  | panic => rfl

def freePage (checked : Bool) (moment : PeerMoment) (client : TcpClient) (handle : PageHandle) :
    Outcome Unit × TcpClient :=
  thenChange (withStream checked moment client (Tcp.freePage handle)) fun client =>
    { client with pagesUsed := client.pagesUsed - 1 }

def storePage (checked : Bool) (moment : PeerMoment) (client : TcpClient) (handle : PageHandle)
    (data : PageBuffer) : Outcome Unit × TcpClient :=
  thenChange (withStream checked moment client (Tcp.storePage handle data)) fun client =>
    { client with
      totalStoreNs := client.totalStoreNs + moment.elapsed
      storeCount := client.storeCount + 1 }

def loadPage (checked : Bool) (moment : PeerMoment) (client : TcpClient) (handle : PageHandle) :
    Outcome PageBuffer × TcpClient :=
  thenChange (withStream checked moment client (Tcp.loadPage handle)) fun client =>
    { client with
      totalLoadNs := client.totalLoadNs + moment.elapsed
      loadCount := client.loadCount + 1 }

end TcpClient

/-- An operation on a stream comes to what every schedule of the network comes to, with a peer which
has sent all that it will send. -/
theorem Socket.schedules_finish {Answer : Type} (socket : Socket)
    (op : Program Unit (Outcome Answer)) {taken : List ByteStream.Side}
    {reached : Network Unit (Outcome Answer) Unit Unit}
    (started : Transition.run Network.step
      ⟨op, (), .done (), (), socket.outgoing, socket.incoming⟩ taken = some reached) :
    ∃ rest, Transition.run Network.step reached rest =
      some ⟨.done (op.finish () socket.outgoing socket.incoming).1,
        (op.finish () socket.outgoing socket.incoming).2.1, .done (), (),
        (op.finish () socket.outgoing socket.incoming).2.2.1,
        (op.finish () socket.outgoing socket.incoming).2.2.2⟩ := by
  rcases Network.reaches_finish op () () () socket.outgoing socket.incoming with ⟨schedule, ran⟩
  rcases Transition.exists_completion Network.independent (Network.stuck_of_done rfl rfl) ran
    started with ⟨rest, ranRest, _⟩
  exact ⟨rest, ranRest⟩

/-- The request for a page can be sent, and the peer answers it with the given offset. -/
def Socket.Grants (socket : Socket) (offset : UInt64) : Prop :=
  (socket.outgoing.write [Tcp.OP_ALLOC]).1 = true ∧
    ∃ rest, socket.incoming.pending =
      Tcp.RESP_OK :: (LittleEndian.ofUInt64 offset).toList ++ rest

namespace Tcp

variable {Value : Type} {holds : Outcome Value → Prop}

theorem always_writeAll {bytes : List UInt8} {next : Program Unit (Outcome Value)}
    (failed : holds (.err .io)) (sent : next.Always holds) :
    (writeAll bytes next).Always holds := by
  intro ok
  cases ok with
  | true => exact sent
  | false => exact failed

theorem always_readExact {count : ℕ} {next : Vector UInt8 count → Program Unit (Outcome Value)}
    (failed : holds (.err .io)) (received : ∀ bytes, (next bytes).Always holds) :
    (readExact count next).Always holds := by
  intro got
  cases got with
  | some bytes => exact received bytes
  | none => exact failed

/-- A status byte is answered with an error or a success. -/
theorem always_status {status : UInt8} {error : DuvmError} {next : Program Unit (Outcome Value)}
    (refused : holds (.err error)) (accepted : next.Always holds) :
    (if status ≠ RESP_OK then Program.done (.err error) else next).Always holds := by
  split
  · exact refused
  · exact accepted

theorem freePage_always (handle : PageHandle) : (freePage handle).Always (· ≠ .panic) :=
  always_writeAll nofun <| always_readExact nofun fun _ => always_status nofun nofun

theorem storePage_always (handle : PageHandle) (data : PageBuffer) :
    (storePage handle data).Always (· ≠ .panic) :=
  always_writeAll nofun <| always_writeAll nofun <| always_readExact nofun fun _ =>
    always_status nofun nofun

theorem loadPage_always (handle : PageHandle) : (loadPage handle).Always (· ≠ .panic) :=
  always_writeAll nofun <| always_readExact nofun fun _ => always_status nofun <|
    always_readExact nofun fun _ => nofun

/-- An answer to the request for a page is a status and an offset. -/
theorem toList_answer (answer : Vector UInt8 9) :
    answer.toList = answer.get 0 ::
      (LittleEndian.ofUInt64 (LittleEndian.toUInt64 (answer.drop 1))).toList := by
  have dropped : (answer.drop 1).toList = answer.toList.drop 1 := Vector.toList_drop
  rw [LittleEndian.ofUInt64_toUInt64, dropped]
  cases listed : answer.toList with
  | nil =>
      have length : answer.toList.length = 9 := by simp
      rw [listed] at length
      cases length
  | cons status offset => rw [get_zero_of_toList listed, List.drop_one, List.tail_cons]

theorem grants_iff {socket : Socket} (sent : (socket.outgoing.write [OP_ALLOC]).1 = true)
    {answer : Vector UInt8 9} {rest : List UInt8}
    (received : socket.incoming.pending = answer.toList ++ rest) (offset : UInt64) :
    socket.Grants offset ↔
      answer.get 0 = RESP_OK ∧ LittleEndian.toUInt64 (answer.drop 1) = offset := by
  constructor
  · rintro ⟨_, behind, granted⟩
    rw [received, toList_answer] at granted
    have lengths : (answer.get 0 ::
        (LittleEndian.ofUInt64 (LittleEndian.toUInt64 (answer.drop 1))).toList).length =
          (RESP_OK :: (LittleEndian.ofUInt64 offset).toList).length := by simp
    have parts := (List.append_inj granted lengths).1
    simp only [List.cons.injEq, Vector.toList_inj] at parts
    refine ⟨parts.1, ?_⟩
    rw [← LittleEndian.toUInt64_ofUInt64 offset, ← parts.2, LittleEndian.toUInt64_ofUInt64]
  · rintro ⟨accepted, rfl⟩
    refine ⟨sent, rest, ?_⟩
    rw [received, toList_answer, accepted]

/-- What the answer to the request for a page is turned into. -/
theorem finish_allocPage {outgoing incoming after : Pipe} {answer : Vector UInt8 9}
    (backendId : UInt8) (sent : (outgoing.write [OP_ALLOC]).1 = true)
    (received : incoming.readClosed 9 = (some answer, after)) :
    ((allocPage backendId).finish () outgoing incoming).1 =
      if answer.get 0 ≠ RESP_OK then .err .remoteAllocFailed
      else match PageHandle.new backendId (LittleEndian.toUInt64 (answer.drop 1)) with
        | some handle => .ok handle
        | none => .panic := by
  simp only [allocPage, writeAll, readExact, Program.finish, sent, received, if_true]
  by_cases refused : answer.get 0 ≠ RESP_OK
  · rw [if_pos refused, if_pos refused]
    rfl
  · rw [if_neg refused, if_neg refused]
    cases PageHandle.new backendId (LittleEndian.toUInt64 (answer.drop 1)) with
    | some handle => rfl
    | none => rfl

/-- The request for a page panics if the offset which the peer grants does not fit a handle, and
for no other reason. -/
theorem allocPage_panics_iff (backendId : UInt8) (socket : Socket) :
    ((allocPage backendId).finish () socket.outgoing socket.incoming).1 = .panic ↔
      ∃ offset, socket.Grants offset ∧ PageHandle.offsetLimit ≤ offset.toNat := by
  cases sent : (socket.outgoing.write [OP_ALLOC]).1 with
  | false =>
      have failed : ((allocPage backendId).finish () socket.outgoing socket.incoming).1 =
          .err .io := by
        simp [allocPage, writeAll, Program.finish, sent]
      rw [failed]
      constructor
      · simp
      · rintro ⟨offset, ⟨sent', _⟩, _⟩
        rw [sent] at sent'
        cases sent'
  | true =>
      rcases socket.incoming.readClosed_cases 9 with
        ⟨answer, rest, pending, received⟩ | ⟨few, received⟩
      · rw [finish_allocPage backendId sent received]
        simp only [grants_iff sent pending]
        by_cases refused : answer.get 0 ≠ RESP_OK
        · rw [if_pos refused]
          simp [refused]
        · have accepted : answer.get 0 = RESP_OK := not_not.mp refused
          rw [if_neg refused]
          simp only [accepted, true_and, exists_eq_left', ← @PageHandle.new_eq_none backendId]
          cases PageHandle.new backendId (LittleEndian.toUInt64 (answer.drop 1)) with
          | some handle => simp
          | none => simp
      · have failed : ((allocPage backendId).finish () socket.outgoing socket.incoming).1 =
            .err .io := by
          simp [allocPage, writeAll, readExact, Program.finish, sent, received]
        rw [failed]
        constructor
        · simp
        · rintro ⟨offset, ⟨_, rest, pending⟩, _⟩
          rw [pending] at few
          simp at few
          omega

end Tcp

namespace TcpClient

/-- The next failure can be counted. -/
def Countable (checked : Bool) (failures : UInt32) : Prop :=
  checked = true → failures.toNat + 1 < 2 ^ 32

theorem addFailure_of_countable {checked : Bool} {failures : UInt32}
    (countable : Countable checked failures) :
    addFailure checked failures = some (failures + 1) := by
  cases checked with
  | false => rfl
  | true =>
      have fits := countable rfl
      have noWrap : ¬ failures.toNat + 1 = 2 ^ 32 := by omega
      simp only [addFailure, noWrap, decide_false, Bool.and_false, Bool.false_eq_true, if_false]

section Running

variable {checked : Bool} {moment : PeerMoment} {client : TcpClient} {Answer : Type}
  {op : Program Unit (Outcome Answer)}

/-- To get a stream does not panic, and leaves a counter which can take a failure. -/
theorem obtainStream_running (addr : String) {state : PeerConn}
    (countable : Countable checked state.consecutiveFailures) :
    (state.obtainStream checked addr moment).1 ≠ .panic ∧
      ∀ socket conn, state.obtainStream checked addr moment = (.ok socket, conn) →
        Countable checked conn.consecutiveFailures := by
  have fresh : Countable checked 0 := fun _ => by decide
  unfold PeerConn.obtainStream
  cases isOpen : state.stream with
  | some socket =>
      refine ⟨by simp [isOpen], ?_⟩
      intro used conn obtained
      simp only [isOpen, Option.isNone_some, Bool.false_eq_true, if_false, Prod.mk.injEq]
        at obtained
      rw [← obtained.2]
      exact countable
  | none =>
      by_cases breaker : state.circuitBreakerOpen moment.now = true
      · simp [PeerConn.tryReconnect, breaker]
      · cases tried : moment.attempt with
        | connected =>
            refine ⟨by simp [PeerConn.tryReconnect, breaker, tried], ?_⟩
            intro used conn obtained
            simp only [PeerConn.tryReconnect, breaker, tried, Option.isNone_none, if_true,
              Bool.false_eq_true, if_false, Prod.mk.injEq] at obtained
            rw [← obtained.2]
            exact fresh
        | refused =>
            simp [PeerConn.tryReconnect, breaker, tried, addFailure_of_countable countable, isOpen]
        | unusable => simp [PeerConn.tryReconnect, breaker, tried, isOpen]

/-- A use of the stream panics if its operation does. -/
theorem withStream_panics_iff (countable : Countable checked client.conn.consecutiveFailures) :
    (client.withStream checked moment op).1 = .panic ↔
      ∃ socket conn, client.conn.obtainStream checked client.addr moment = (.ok socket, conn) ∧
        (op.finish () socket.outgoing socket.incoming).1 = .panic := by
  have running := @obtainStream_running checked moment client.addr client.conn countable
  unfold withStream
  cases obtained : client.conn.obtainStream checked client.addr moment with
  | mk ready conn =>
      rw [obtained] at running
      cases ready with
      | panic => exact absurd rfl running.1
      | err error => simp
      | ok socket =>
          have stillCountable := running.2 socket conn rfl
          cases finished : op.finish () socket.outgoing socket.incoming with
          | mk result rest =>
              cases result with
              | ok answer => simp [finished]
              | panic => simp [finished]
              | err error => simp [finished, addFailure_of_countable stillCountable]

theorem withStream_ne_panic (countable : Countable checked client.conn.consecutiveFailures)
    (always : op.Always (· ≠ .panic)) : (client.withStream checked moment op).1 ≠ .panic := by
  rw [Ne, withStream_panics_iff countable]
  rintro ⟨socket, conn, _, panicked⟩
  exact always.finish () socket.outgoing socket.incoming panicked

theorem pagesUsed_withStream (client : TcpClient) (op : Program Unit (Outcome Answer)) :
    (client.withStream checked moment op).2.pagesUsed = client.pagesUsed := by
  unfold withStream
  split
  · rfl
  · rfl
  · split
    · rfl
    · rfl
    · simp only
      split
      · rfl
      · rfl

end Running

section Calls

variable {checked : Bool} {moment : PeerMoment} {client : TcpClient}

theorem allocPage_panics_iff (countable : Countable checked client.conn.consecutiveFailures) :
    (client.allocPage checked moment).1 = .panic ↔
      client.pagesUsed < client.maxPages ∧
        ∃ socket conn offset,
          client.conn.obtainStream checked client.addr moment = (.ok socket, conn) ∧
          socket.Grants offset ∧ PageHandle.offsetLimit ≤ offset.toNat := by
  by_cases full : client.pagesUsed ≥ client.maxPages
  · rw [allocPage, if_pos full]
    constructor
    · nofun
    · rintro ⟨room, _⟩
      exact absurd full (UInt64.not_le.mpr room)
  · have room := UInt64.not_le.mp full
    have reserved := @withStream_panics_iff checked moment
      { client with pagesUsed := client.pagesUsed + 1 } _ (Tcp.allocPage client.backendId)
      countable
    simp only [Tcp.allocPage_panics_iff] at reserved
    have sameResult : (client.allocPage checked moment).1 = .panic ↔
        (withStream checked moment { client with pagesUsed := client.pagesUsed + 1 }
          (Tcp.allocPage client.backendId)).1 = .panic := by
      rw [allocPage, if_neg full]
      cases withStream checked moment { client with pagesUsed := client.pagesUsed + 1 }
          (Tcp.allocPage client.backendId) with
      | mk result after =>
          cases result with
          | ok handle => simp
          | err error => simp
          | panic => simp
    rw [sameResult, reserved]
    constructor
    · rintro ⟨socket, conn, obtained, offset, granted, large⟩
      exact ⟨room, socket, conn, offset, obtained, granted, large⟩
    · rintro ⟨_, socket, conn, offset, obtained, granted, large⟩
      exact ⟨socket, conn, obtained, offset, granted, large⟩

/-- The page counted in advance is given back upon an error, and not upon a panic. -/
theorem pagesUsed_allocPage (client : TcpClient) :
    ((∃ error, (client.allocPage checked moment).1 = .err error) →
      (client.allocPage checked moment).2.pagesUsed = client.pagesUsed) ∧
    ((client.allocPage checked moment).1 = .panic →
      (client.allocPage checked moment).2.pagesUsed = client.pagesUsed + 1) := by
  unfold allocPage
  split
  · exact ⟨fun _ => rfl, nofun⟩
  · have used := @pagesUsed_withStream checked moment _
      { client with pagesUsed := client.pagesUsed + 1 } (Tcp.allocPage client.backendId)
    revert used
    cases withStream checked moment { client with pagesUsed := client.pagesUsed + 1 }
        (Tcp.allocPage client.backendId) with
    | mk result after =>
        intro used
        simp only at used
        cases result with
        | ok handle => simp
        | err error => simp [used]
        | panic => simp [used]

theorem freePage_ne_panic (countable : Countable checked client.conn.consecutiveFailures)
    (handle : PageHandle) : (client.freePage checked moment handle).1 ≠ .panic := by
  rw [freePage, fst_thenChange]
  exact withStream_ne_panic countable (Tcp.freePage_always handle)

theorem storePage_ne_panic (countable : Countable checked client.conn.consecutiveFailures)
    (handle : PageHandle) (data : PageBuffer) :
    (client.storePage checked moment handle data).1 ≠ .panic := by
  rw [storePage, fst_thenChange]
  exact withStream_ne_panic countable (Tcp.storePage_always handle data)

theorem loadPage_ne_panic (countable : Countable checked client.conn.consecutiveFailures)
    (handle : PageHandle) : (client.loadPage checked moment handle).1 ≠ .panic := by
  rw [loadPage, fst_thenChange]
  exact withStream_ne_panic countable (Tcp.loadPage_always handle)

end Calls

/-- None of the calls panics, and an allocation which does not succeed is not counted. -/
structure Survives (client : TcpClient) (checked : Bool) (moment : PeerMoment) : Prop where
  alloc : (client.allocPage checked moment).1 ≠ .panic
  free : ∀ handle, (client.freePage checked moment handle).1 ≠ .panic
  store : ∀ handle data, (client.storePage checked moment handle data).1 ≠ .panic
  load : ∀ handle, (client.loadPage checked moment handle).1 ≠ .panic
  notCounted : (client.allocPage checked moment).1.isOk = false →
    (client.allocPage checked moment).2.pagesUsed = client.pagesUsed

/-- Whatever the peer sends, the backend survives it unless it is an offset of more than 56 bits
in answer to the request for a page. -/
theorem survives_iff (client : TcpClient) (checked : Bool) (moment : PeerMoment)
    (countable : Countable checked client.conn.consecutiveFailures) :
    client.Survives checked moment ↔
      (client.pagesUsed < client.maxPages → ∀ socket conn offset,
        client.conn.obtainStream checked client.addr moment = (.ok socket, conn) →
        socket.Grants offset → offset.toNat < PageHandle.offsetLimit) := by
  constructor
  · intro survives room socket conn offset obtained granted
    by_contra large
    apply survives.alloc
    exact (allocPage_panics_iff countable).mpr
      ⟨room, socket, conn, offset, obtained, granted, Nat.not_lt.mp large⟩
  · intro fits
    have alloc : (client.allocPage checked moment).1 ≠ .panic := by
      intro panicked
      rcases (allocPage_panics_iff countable).mp panicked with
        ⟨room, socket, conn, offset, obtained, granted, large⟩
      exact absurd (fits room socket conn offset obtained granted) (Nat.not_lt.mpr large)
    refine ⟨alloc, freePage_ne_panic countable, storePage_ne_panic countable,
      loadPage_ne_panic countable, ?_⟩
    intro failed
    apply (client.pagesUsed_allocPage).1
    cases result : (client.allocPage checked moment).1 with
    | ok handle => simp [result, Outcome.isOk] at failed
    | err error => exact ⟨error, rfl⟩
    | panic => exact absurd result alloc

/-- A new backend which is connected to a peer that sends the given bytes and closes. -/
def connectedTo (bytes : List UInt8) : TcpClient where
  conn := ⟨some ⟨⟨[], 100, 0⟩, ⟨bytes, 0, 0⟩⟩, 0, none⟩
  addr := "10.0.0.2:9200"
  backendId := 1
  maxPages := 8
  pagesUsed := 0
  totalStoreNs := 0
  totalLoadNs := 0
  storeCount := 0
  loadCount := 0

/-- A call during which no connection can be made. -/
def quietMoment : PeerMoment := ⟨0, .refused, ⟨⟨[], 0, 0⟩, ⟨[], 0, 0⟩⟩, 0⟩

/-- A peer which breaks off in the middle of an answer. -/
theorem survives_truncated_answer : (connectedTo [0, 7]).Survives true quietMoment := by
  refine (survives_iff _ _ _ fun _ => by decide).mpr ?_
  intro _ socket conn offset obtained granted
  rcases granted with ⟨_, rest, pending⟩
  cases obtained
  have lengths := congrArg List.length pending
  simp at lengths
  omega

/-- The peer grants offset 2^56: the backend panics, and counts a page which it does not have. -/
theorem panics_at_large_offset :
    let offset := UInt64.ofNat PageHandle.offsetLimit
    let client := connectedTo (Tcp.RESP_OK :: (LittleEndian.ofUInt64 offset).toList)
    (client.allocPage false quietMoment).1 = .panic ∧
      (client.allocPage false quietMoment).2.pagesUsed = 1 ∧
      ¬ client.Survives false quietMoment := by
  intro offset client
  have panicked : (client.allocPage false quietMoment).1 = .panic := by
    apply (allocPage_panics_iff fun unchecked => Bool.noConfusion unchecked).mpr
    have granted : Socket.Grants ⟨⟨[], 100, 0⟩,
        ⟨Tcp.RESP_OK :: (LittleEndian.ofUInt64 offset).toList, 0, 0⟩⟩ offset :=
      ⟨rfl, [], (List.append_nil _).symm⟩
    exact ⟨by decide, _, _, offset, rfl, granted, by decide⟩
  exact ⟨panicked, client.pagesUsed_allocPage.2 panicked, fun survives => survives.alloc panicked⟩

end TcpClient

end Duvm
