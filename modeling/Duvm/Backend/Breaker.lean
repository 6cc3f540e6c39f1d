import Duvm.Backend.Tcp
import Duvm.Library.Transition

/-!
# The circuit breaker of the TCP backend

`try_reconnect` refuses to connect when there were `MAX_CONSECUTIVE_FAILURES`
failures in a row and the last attempt is less than `BACKOFF_SECS` ago. The
counter of failures is reset as soon as a connection is established, before it
is known whether the request on it succeeds.

This file follows outages, sequences of operations none of which succeeds, and
the times of the connection attempts they make. While no connection can be
established, the attempts after the first five operations keep their distance.
A server which accepts connections and drops them resets the counter each time,
so that every operation connects anew, at once.
-/

namespace Duvm

open Transition

/-- An operation of the backend. -/
inductive TcpCall where
  | alloc
  | free (handle : PageHandle)
  | store (handle : PageHandle) (data : PageBuffer)
  | load (handle : PageHandle)

/-- A link, and for each operation since the outage began the time of the connection attempt it
made, if it made one. -/
structure Outage where
  link : TcpLink
  history : List (Option ℕ)

namespace Outage

open TcpBackend

def start (link : TcpLink) : Outage := ⟨link, []⟩

/-- The time at which the next use of the connection attempts to connect, if it does. -/
def attempt (link : TcpLink) : Option ℕ :=
  if link.backend.conn.stream.isNone && !circuitBreakerOpen link.backend.conn link.fate.now then
    some link.fate.now
  else none

def record (outage : Outage) (link : TcpLink) : Outage :=
  ⟨link, outage.history ++ [attempt outage.link]⟩

/-- An operation which reaches the connection and fails. -/
def step (outage : Outage) : TcpCall → Option Outage
  | .alloc =>
      if outage.link.backend.pagesUsed ≥ outage.link.backend.maxPages then none
      else
        match outage.link.allocPage with
        | (.err _, link) => some (outage.record link)
        | _ => none
  | .free handle =>
      match outage.link.freePage handle with
      | (.error _, link) => some (outage.record link)
      | (.ok (), _) => none
  | .store handle data =>
      match outage.link.storePage handle data with
      | (.error _, link) => some (outage.record link)
      | (.ok (), _) => none
  | .load handle =>
      match outage.link.loadPage handle with
      | (.error _, link) => some (outage.record link)
      | (.ok _, _) => none

/-- The times of the attempts which follow the first `MAX_CONSECUTIVE_FAILURES` operations. -/
def laterAttempts (outage : Outage) : List ℕ :=
  (outage.history.drop MAX_CONSECUTIVE_FAILURES.toNat).filterMap id

/-- The connection state which a failed use leaves behind. -/
def afterFailure (fate : Fate) (conn : ConnState) : ConnState :=
  if conn.stream.isSome then
    { conn with stream := none, consecutiveFailures := conn.consecutiveFailures + 1 }
  else if circuitBreakerOpen conn fate.now then conn
  else
    match fate.attempt with
    | .connected => ⟨none, 0 + 1, some fate.now⟩
    | .refused => ⟨none, conn.consecutiveFailures + 1, some fate.now⟩
    | .unusable => ⟨none, conn.consecutiveFailures, some fate.now⟩

section Failure

variable {Answer : Type} {link after : TcpLink} {error : DuvmError}

/-- The state in which a connection is obtained is not yet that of a failure: a request on it can
still succeed. -/
theorem afterFailure_eq (addr : String) (fate : Fate) (lifetime : ℕ) (conn : ConnState) :
    (∀ error state, obtainStream addr fate lifetime conn = (.error error, state) →
      state = afterFailure fate conn) ∧
    ∀ stream state, obtainStream addr fate lifetime conn = (.ok stream, state) →
      { state with stream := none, consecutiveFailures := state.consecutiveFailures + 1 } =
        afterFailure fate conn := by
  unfold obtainStream afterFailure
  rcases conn with ⟨_ | stream, failures, last⟩
  · by_cases breaker : circuitBreakerOpen ⟨none, failures, last⟩ fate.now = true
    · simp [tryReconnect, breaker, eq_comm]
    · cases tried : fate.attempt with
      | connected => simp [tryReconnect, breaker, tried]
      | refused => simp [tryReconnect, breaker, tried, eq_comm]
      | unusable => simp [tryReconnect, breaker, tried, eq_comm]
  · simp

theorem conn_of_withStream {operation : Tcp.Operation}
    {reply : Memserver.PageStore → Except DuvmError Answer}
    (failed : link.withStream operation reply = (.error error, after)) :
    after.backend.conn = afterFailure link.fate link.backend.conn ∧
      after.fates = link.fates.tail := by
  have outcome := afterFailure_eq link.backend.addr link.fate link.upcoming.lifetime
    link.backend.conn
  unfold TcpLink.withStream at failed
  cases obtained : obtainStream link.backend.addr link.fate link.upcoming.lifetime
    link.backend.conn with
  | mk ready conn =>
      rw [obtained] at failed
      cases ready with
      | error first =>
          have same : link.afterUse conn link.upcoming = after := congrArg Prod.snd failed
          rw [← outcome.1 first conn obtained, ← same]
          exact ⟨rfl, rfl⟩
      | ok stream =>
          simp only at failed
          cases exchanged : TcpLink.exchange link.upcoming operation reply link.fate.delivery
            stream with
          | mk result server =>
              rw [exchanged] at failed
              cases result with
              | ok answer => simp at failed
              | error second =>
                  have same : link.afterUse { conn with
                      stream := none, consecutiveFailures := conn.consecutiveFailures + 1 } server =
                      after := congrArg Prod.snd failed
                  rw [← outcome.2 stream conn obtained, ← same]
                  exact ⟨rfl, rfl⟩

/-- What a failed operation leaves behind. -/
structure Failed (outage next : Outage) : Prop where
  conn : next.link.backend.conn = afterFailure outage.link.fate outage.link.backend.conn
  fates : next.link.fates = outage.link.fates.tail
  history : next.history = outage.history ++ [attempt outage.link]

theorem failed_of_withStream {outage : Outage} {operation : Tcp.Operation}
    {reply : Memserver.PageStore → Except DuvmError Answer}
    (failed : outage.link.withStream operation reply = (.error error, after)) :
    outage.Failed (outage.record after) where
  conn := (conn_of_withStream failed).1
  fates := (conn_of_withStream failed).2
  history := rfl

theorem failed_of_step {outage next : Outage} {call : TcpCall}
    (stepped : outage.step call = some next) : outage.Failed next := by
  cases call with
  | alloc =>
      simp only [step, TcpLink.allocPage] at stepped
      split at stepped
      · cases stepped
      · cases used : (outage.link.setUsed (outage.link.backend.pagesUsed + 1)).withStream .alloc
          Tcp.allocReply with
        | mk result after =>
            rw [used] at stepped
            cases result with
            | ok offset =>
                simp only at stepped
                cases created : PageHandle.new after.backend.backendId offset with
                | none => simp [created] at stepped
                | some handle => simp [created] at stepped
            | error error =>
                rw [← Option.some.inj stepped]
                rcases conn_of_withStream used with ⟨conn, fates⟩
                exact ⟨conn, fates, rfl⟩
  | free handle =>
      simp only [step, TcpLink.freePage] at stepped
      cases used : outage.link.withStream (.free handle) (Tcp.freeReply · handle) with
      | mk result after =>
          rw [used] at stepped
          cases result with
          | ok _ => simp at stepped
          | error error =>
              rw [← Option.some.inj stepped]
              exact failed_of_withStream used
  | store handle data =>
      simp only [step, TcpLink.storePage] at stepped
      cases used : outage.link.withStream (.store handle data) (Tcp.storeReply · handle data) with
      | mk result after =>
          rw [used] at stepped
          cases result with
          | ok _ => simp at stepped
          | error error =>
              rw [← Option.some.inj stepped]
              exact failed_of_withStream used
  | load handle =>
      simp only [step, TcpLink.loadPage] at stepped
      cases used : outage.link.withStream (.load handle) (Tcp.loadReply · handle) with
      | mk result after =>
          rw [used] at stepped
          cases result with
          | ok _ => simp at stepped
          | error error =>
              rw [← Option.some.inj stepped]
              exact failed_of_withStream used

end Failure

variable {link : TcpLink} {outage : Outage} {before : ℕ}

/-- The breaker lets an attempt through only if there were few failures, or the last attempt is
far enough back. -/
theorem backoff_of_attempt {now : ℕ} (attempted : attempt link = some now)
    (many : MAX_CONSECUTIVE_FAILURES ≤ link.backend.conn.consecutiveFailures) :
    ∀ last, link.backend.conn.lastAttempt = some last → last + backoff ≤ now := by
  intro last isLast
  have positive : 0 < backoff := by decide
  unfold attempt circuitBreakerOpen at attempted
  split at attempted
  · next closed =>
      rw [Option.some.injEq] at attempted
      simp only [isLast, many, decide_true, Bool.true_and, Option.any_some,
        Bool.and_eq_true, Bool.not_eq_true', decide_eq_false_iff_not, Nat.not_lt] at closed
      omega
  · cases attempted

/-- What a failed operation does to the connection state while connections are refused. -/
inductive Refused (link : TcpLink) (conn : ConnState) : Prop
  | heldBack (noAttempt : attempt link = none) (same : conn = link.backend.conn)
      (many : MAX_CONSECUTIVE_FAILURES ≤ link.backend.conn.consecutiveFailures)
  | cut (noAttempt : attempt link = none)
      (counts : conn.consecutiveFailures = link.backend.conn.consecutiveFailures + 1)
      (last : conn.lastAttempt = link.backend.conn.lastAttempt)
  | attempted (now : ℕ) (attempts : attempt link = some now)
      (counts : conn.consecutiveFailures = link.backend.conn.consecutiveFailures + 1)
      (last : conn.lastAttempt = some now)

theorem refused_of_afterFailure (refused : link.fate.attempt = .refused) :
    Refused link (afterFailure link.fate link.backend.conn) := by
  cases isOpen : link.backend.conn.stream with
  | some stream =>
      have after : afterFailure link.fate link.backend.conn = { link.backend.conn with
          stream := none
          consecutiveFailures := link.backend.conn.consecutiveFailures + 1 } := by
        rw [afterFailure, if_pos (by simp [isOpen])]
      rw [after]
      exact .cut (by simp [attempt, isOpen]) rfl rfl
  | none =>
      cases breaker : circuitBreakerOpen link.backend.conn link.fate.now with
      | true =>
          have after : afterFailure link.fate link.backend.conn = link.backend.conn := by
            simp [afterFailure, isOpen, breaker]
          rw [after]
          refine .heldBack (by simp [attempt, breaker]) rfl ?_
          unfold circuitBreakerOpen at breaker
          simp only [Bool.and_eq_true, decide_eq_true_eq] at breaker
          exact breaker.1
      | false =>
          have after : afterFailure link.fate link.backend.conn =
              ⟨none, link.backend.conn.consecutiveFailures + 1, some link.fate.now⟩ := by
            simp [afterFailure, isOpen, breaker, refused]
          rw [after]
          exact .attempted link.fate.now (by simp [attempt, isOpen, breaker]) rfl rfl

theorem laterAttempts_eq {next : Outage} (failed : outage.Failed next) :
    next.laterAttempts =
      if outage.history.length < MAX_CONSECUTIVE_FAILURES.toNat then []
      else outage.laterAttempts ++ (attempt outage.link).toList := by
  rw [laterAttempts, failed.history]
  split
  · next few =>
      rw [List.drop_eq_nil_of_le (by simp; omega)]
      rfl
  · next enough =>
      rw [List.drop_append_of_le_length (by omega), List.filterMap_append]
      cases attempt outage.link with
      | none => rfl
      | some now => rfl

/-- While connections are refused: the failures have been counted, and the attempts after the
first five operations keep their distance up to the last one. -/
structure Spaced (before : ℕ) (outage : Outage) : Prop where
  refusing : ∀ fate ∈ outage.link.fates, fate.attempt = .refused
  counted : min outage.history.length MAX_CONSECUTIVE_FAILURES.toNat ≤
    outage.link.backend.conn.consecutiveFailures.toNat
  bounded : outage.link.backend.conn.consecutiveFailures.toNat ≤ before + outage.history.length
  spaced : outage.laterAttempts.Pairwise fun earlier later => earlier + backoff ≤ later
  last : ∀ time ∈ outage.laterAttempts,
    ∃ last, outage.link.backend.conn.lastAttempt = some last ∧ time ≤ last

theorem Spaced.fate_refused (spaced : Spaced before outage) :
    outage.link.fate.attempt = .refused := by
  unfold TcpLink.fate
  cases fates : outage.link.fates with
  | nil => rfl
  | cons fate rest => exact spaced.refusing fate (by simp [fates])

/-- The counter of failures does not overflow. -/
theorem Spaced.toNat_succ (spaced : Spaced before outage)
    (few : before + outage.history.length + 1 < 2 ^ 32) :
    (outage.link.backend.conn.consecutiveFailures + 1).toNat =
      outage.link.backend.conn.consecutiveFailures.toNat + 1 := by
  have bounded := spaced.bounded
  have one : (1 : UInt32).toNat = 1 := rfl
  rw [UInt32.toNat_add, one, Nat.mod_eq_of_lt (by omega)]

/-- An attempt after the first five operations was let through by the breaker. -/
theorem Spaced.distance {now : ℕ} (spaced : Spaced before outage)
    (attempts : attempt outage.link = some now)
    (enough : MAX_CONSECUTIVE_FAILURES.toNat ≤ outage.history.length) :
    ∀ time ∈ outage.laterAttempts, time + backoff ≤ now := by
  intro time listed
  rcases spaced.last time listed with ⟨previous, isLast, notAfter⟩
  have counted := spaced.counted
  have many : MAX_CONSECUTIVE_FAILURES ≤ outage.link.backend.conn.consecutiveFailures := by
    apply UInt32.le_iff_toNat_le.mpr
    omega
  have backedOff := backoff_of_attempt attempts many previous isLast
  omega

theorem laterAttempts_sublist {next : Outage} (failed : outage.Failed next)
    (noAttempt : attempt outage.link = none) :
    next.laterAttempts.Sublist outage.laterAttempts := by
  rw [laterAttempts_eq failed, noAttempt]
  split
  · exact List.nil_sublist _
  · simp

theorem Spaced.of_step {next : Outage} (spaced : Spaced before outage) {call : TcpCall}
    (few : before + outage.history.length + 1 < 2 ^ 32) (stepped : outage.step call = some next) :
    Spaced before next := by
  have failed := failed_of_step stepped
  have five : MAX_CONSECUTIVE_FAILURES.toNat = 5 := rfl
  have counted := spaced.counted
  have bounded := spaced.bounded
  have plusOne := spaced.toNat_succ few
  have length : next.history.length = outage.history.length + 1 := by
    rw [failed.history, List.length_append, List.length_singleton]
  have refusing : ∀ fate ∈ next.link.fates, fate.attempt = .refused := by
    intro fate listed
    rw [failed.fates] at listed
    exact spaced.refusing fate (List.mem_of_mem_tail listed)
  have outcome := refused_of_afterFailure spaced.fate_refused
  rw [← failed.conn] at outcome
  cases outcome with
  | heldBack noAttempt same many =>
      have kept := laterAttempts_sublist failed noAttempt
      have enough : 5 ≤ _ := UInt32.le_iff_toNat_le.mp many
      refine ⟨refusing, ?_, ?_, spaced.spaced.sublist kept, ?_⟩
      · rw [same, five]
        omega
      · rw [same, length]
        omega
      · intro time listed
        rw [same]
        exact spaced.last time (kept.subset listed)
  | cut noAttempt counts last =>
      have kept := laterAttempts_sublist failed noAttempt
      refine ⟨refusing, ?_, ?_, spaced.spaced.sublist kept, ?_⟩
      · rw [counts, plusOne, length]
        omega
      · rw [counts, plusOne, length]
        omega
      · intro time listed
        rw [last]
        exact spaced.last time (kept.subset listed)
  | attempted now attempts counts last =>
      have later := laterAttempts_eq failed
      rw [attempts, Option.toList_some] at later
      refine ⟨refusing, ?_, ?_, ?_, ?_⟩
      · rw [counts, plusOne, length]
        omega
      · rw [counts, plusOne, length]
        omega
      · rw [later]
        split
        · exact List.Pairwise.nil
        · next enough =>
            refine List.pairwise_append.mpr ⟨spaced.spaced, List.pairwise_singleton _ _, ?_⟩
            intro time listed other isNow
            rw [List.mem_singleton.mp isNow]
            exact spaced.distance attempts (Nat.not_lt.mp enough) time listed
      · intro time listed
        refine ⟨now, last, ?_⟩
        rw [later] at listed
        split at listed
        · cases listed
        · next enough =>
            rcases List.mem_append.mp listed with earlier | isNow
            · have apart := spaced.distance attempts (Nat.not_lt.mp enough) time earlier
              omega
            · rw [List.mem_singleton.mp isNow]

theorem Spaced.of_run {final : Outage} (spaced : Spaced before outage) {calls : List TcpCall}
    (few : before + outage.history.length + calls.length < 2 ^ 32)
    (reached : run step outage calls = some final) : Spaced before final := by
  induction calls generalizing outage with
  | nil =>
      rw [run_nil, Option.some.injEq] at reached
      exact reached ▸ spaced
  | cons call rest ih =>
      rw [run_cons, Option.bind_eq_some_iff] at reached
      rcases reached with ⟨next, stepped, reached⟩
      rw [List.length_cons] at few
      refine ih (spaced.of_step (by omega) stepped) ?_ reached
      rw [(failed_of_step stepped).history, List.length_append, List.length_singleton]
      omega

/-- In an outage in which every connection attempt is refused, any two attempts after the first
`MAX_CONSECUTIVE_FAILURES` operations are `BACKOFF_SECS` apart, as long as the counter of failures
does not overflow. -/
theorem attempts_spaced {calls : List TcpCall}
    (refusing : ∀ fate ∈ link.fates, fate.attempt = .refused)
    (few : link.backend.conn.consecutiveFailures.toNat + calls.length < 2 ^ 32)
    (reached : run step (start link) calls = some outage) :
    outage.laterAttempts.Pairwise fun earlier later => earlier + backoff ≤ later := by
  have initial : Spaced link.backend.conn.consecutiveFailures.toNat (start link) := by
    refine ⟨refusing, Nat.zero_le _, Nat.le_refl _, List.Pairwise.nil, ?_⟩
    intro time listed
    cases listed
  exact (initial.of_run few reached).spaced

/-- A backend which has just been initialised, with a server which meets the given fates, one a
second. -/
def everySecond (attempt : Attempt) (count : ℕ) : TcpLink where
  backend := .connected 2 "10.0.0.1:9200" 16 0
  server := .start 16
  fates := (List.range count).map fun second => ⟨[], second * 1000000000, attempt, .requestLost⟩

/-- Twenty loads, one a second: the connection breaks, and then none can be established. -/
theorem attempts_spaced_when_refused :
    ∃ outage, run step (start (everySecond .refused 20)) (List.replicate 20 (.load ⟨0⟩)) =
        some outage ∧
      outage.laterAttempts = [9000000000, 14000000000, 19000000000] ∧
      outage.laterAttempts.Pairwise fun earlier later => earlier + backoff ≤ later := by
  have ran : ∃ outage, run step (start (everySecond .refused 20))
      (List.replicate 20 (.load ⟨0⟩)) = some outage ∧
        outage.laterAttempts = [9000000000, 14000000000, 19000000000] :=
    ⟨_, rfl, rfl⟩
  rcases ran with ⟨outage, reached, times⟩
  refine ⟨outage, reached, times, attempts_spaced ?_ (by decide) reached⟩
  intro fate listed
  rcases List.mem_map.mp listed with ⟨second, _, rfl⟩
  rfl

/-- A server at its connection limit accepts every connection and drops it: after the first five
operations, each one still connects, a second after the one before it. -/
theorem attempts_unlimited_when_dropped :
    ∃ outage, run step (start (everySecond .connected 8)) (List.replicate 8 (.load ⟨0⟩)) =
        some outage ∧
      outage.laterAttempts = [5000000000, 6000000000, 7000000000] ∧
      ¬outage.laterAttempts.Pairwise fun earlier later => earlier + backoff ≤ later :=
  ⟨_, rfl, rfl, by decide⟩

end Outage

end Duvm
