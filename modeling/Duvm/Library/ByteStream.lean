import Duvm.Library.Interleaving

/-!
# Two programs on the ends of a connection

A connection is a pair of ordered byte streams, each of which may be cut after
any byte. The bytes written before the cut are delivered, the others are lost;
the writer may notice that later, so a write can succeed although its bytes are
lost. Reading blocks until enough bytes have arrived, and fails when they cannot
arrive any more: the stream is cut, or the other side has finished and thereby
closed its end.

A `Program` is sequential code over such a connection and over a local state.
The steps of the two programs commute, so the order in which they are scheduled
does not matter.
-/

namespace ByteStream

open Transition

/-- One direction of a connection: the bytes on their way, how many more will be delivered,
and how many bytes can be lost before the writer notices. -/
structure Pipe where
  pending : List UInt8
  deliver : ℕ
  unnoticed : ℕ

namespace Pipe

/-- `write_all`: whether it succeeds, and what of the bytes is on its way. -/
def write (pipe : Pipe) (bytes : List UInt8) : Bool × Pipe :=
  (bytes.length ≤ pipe.deliver + pipe.unnoticed,
    { pending := pipe.pending ++ bytes.take pipe.deliver
      deliver := pipe.deliver - bytes.length
      unnoticed := pipe.unnoticed - (bytes.length - pipe.deliver) })

/-- `read_exact`: blocks, or comes back with the bytes or without them. -/
def read (pipe : Pipe) (count : ℕ) (closed : Bool) : Option (Option (Vector UInt8 count) × Pipe) :=
  if enough : count ≤ pipe.pending.length then
    some (some ⟨(pipe.pending.take count).toArray, by simp [enough]⟩,
      { pipe with pending := pipe.pending.drop count })
  else if pipe.deliver = 0 || closed then some (none, { pipe with pending := [] })
  else none

variable {pipe : Pipe} {count : ℕ}

/-- All bytes are delivered. -/
theorem write_of_le {bytes : List UInt8} (fits : bytes.length ≤ pipe.deliver) :
    pipe.write bytes =
      (true, ⟨pipe.pending ++ bytes, pipe.deliver - bytes.length, pipe.unnoticed⟩) := by
  have none_lost : bytes.length - pipe.deliver = 0 := by omega
  rw [write, List.take_of_length_le fits, none_lost]
  simp only [Prod.mk.injEq, Nat.sub_zero, and_true, decide_eq_true_eq]
  omega

/-- Writing in two parts is writing the whole. -/
theorem write_write (pipe : Pipe) (first second : List UInt8) :
    ((pipe.write first).2.write second).2 = (pipe.write (first ++ second)).2 := by
  simp only [write, List.take_append, List.append_assoc, List.length_append, Pipe.mk.injEq,
    true_and]
  omega

/-- Both parts are written without noticing a loss if and only if the whole is. -/
theorem fits_write_iff {first second : List UInt8}
    (fits : first.length ≤ pipe.deliver + pipe.unnoticed) :
    second.length ≤ (pipe.write first).2.deliver + (pipe.write first).2.unnoticed ↔
      (first ++ second).length ≤ pipe.deliver + pipe.unnoticed := by
  simp only [write, List.length_append]
  omega

/-- After a write which was noticed to fail, nothing more would be delivered. -/
theorem write_of_lost {first : List UInt8} (lost : pipe.deliver + pipe.unnoticed < first.length)
    (second : List UInt8) :
    (pipe.write first).2 = (pipe.write (first ++ second)).2 := by
  have shorter : pipe.deliver ≤ first.length := by omega
  simp only [write, List.take_append_of_le_length shorter, List.length_append, Pipe.mk.injEq,
    true_and]
  omega

theorem read_of_length_lt (few : pipe.pending.length < count) (closed : Bool) :
    pipe.read count closed =
      if pipe.deliver = 0 || closed then some (none, { pipe with pending := [] }) else none := by
  rw [read, dif_neg (Nat.not_le.mpr few)]

/-- Bytes which have arrived are read back in order. -/
theorem read_append (bytes : Vector UInt8 count) {rest : List UInt8}
    (arrived : pipe.pending = bytes.toList ++ rest) (closed : Bool) :
    pipe.read count closed = some (some bytes, { pipe with pending := rest }) := by
  have length : bytes.toList.length = count := by simp
  have enough : count ≤ pipe.pending.length := by
    rw [arrived, List.length_append, length]
    exact Nat.le_add_right _ _
  rw [read, dif_pos enough]
  have taken : pipe.pending.take count = bytes.toList := by
    rw [arrived, List.take_left' length]
  have dropped : pipe.pending.drop count = rest := by
    rw [arrived, List.drop_left' length]
  congr 2
  · congr 1
    apply Vector.toList_inj.mp
    exact taken
  · rw [dropped]

/-- `read_exact` on a stream which ends behind the bytes on their way. -/
def readClosed (pipe : Pipe) (count : ℕ) : Option (Vector UInt8 count) × Pipe :=
  (pipe.read count true).getD (none, pipe)

theorem read_closed (pipe : Pipe) (count : ℕ) :
    pipe.read count true = some (pipe.readClosed count) := by
  unfold readClosed read
  split
  · rfl
  · simp

/-- A read from a stream which ends gets the bytes, or nothing if they are too few. -/
theorem readClosed_cases (pipe : Pipe) (count : ℕ) :
    (∃ (bytes : Vector UInt8 count) (rest : List UInt8), pipe.pending = bytes.toList ++ rest ∧
      pipe.readClosed count = (some bytes, { pipe with pending := rest })) ∨
    (pipe.pending.length < count ∧
      pipe.readClosed count = (none, { pipe with pending := [] })) := by
  have closed := pipe.read_closed count
  by_cases enough : count ≤ pipe.pending.length
  · left
    rw [read, dif_pos enough] at closed
    refine ⟨_, pipe.pending.drop count, ?_, (Option.some.inj closed).symm⟩
    exact (List.take_append_drop count pipe.pending).symm
  · right
    have few := Nat.not_le.mp enough
    rw [read_of_length_lt few] at closed
    simp only [Bool.or_true, if_true] at closed
    exact ⟨few, (Option.some.inj closed).symm⟩

/-- A read which does not wait for the end of the stream does not depend on it. -/
theorem read_of_open {result : Option (Vector UInt8 count) × Pipe}
    (ready : pipe.read count false = some result) (closed : Bool) :
    pipe.read count closed = some result := by
  by_cases enough : count ≤ pipe.pending.length
  · rw [read, dif_pos enough] at ready ⊢
    exact ready
  · rw [read_of_length_lt (Nat.not_le.mp enough)] at ready ⊢
    by_cases isCut : pipe.deliver = 0
    · simpa [isCut] using ready
    · simp [isCut] at ready

/-- Writing at one end and reading at the other commute. -/
theorem read_write {result : Option (Vector UInt8 count) × Pipe}
    (ready : pipe.read count false = some result) (bytes : List UInt8) (closed : Bool) :
    (pipe.write bytes).2.read count closed = some (result.1, (result.2.write bytes).2) ∧
      (result.2.write bytes).1 = (pipe.write bytes).1 := by
  by_cases enough : count ≤ pipe.pending.length
  · rw [read, dif_pos enough] at ready
    rw [← Option.some.inj ready]
    refine ⟨?_, rfl⟩
    have still : count ≤ (pipe.write bytes).2.pending.length := by
      simp only [write, List.length_append]
      omega
    rw [read, dif_pos still]
    simp only [write, List.take_append_of_le_length enough, List.drop_append_of_le_length enough]
  · have few := Nat.not_le.mp enough
    rw [read_of_length_lt few] at ready
    by_cases isCut : pipe.deliver = 0
    · rw [isCut] at ready
      simp only [decide_true, Bool.true_or, if_true, Option.some.injEq] at ready
      subst ready
      refine ⟨?_, by simp [write, isCut]⟩
      have still : (pipe.write bytes).2.pending.length < count := by
        simp only [write, isCut, List.take_zero, List.append_nil]
        exact few
      rw [read_of_length_lt still]
      simp [write, isCut]
    · simp [isCut] at ready

end Pipe

/-- Sequential code which writes, reads and changes a local state. -/
inductive Program (State Result : Type) : Type 1 where
  | done (result : Result)
  | write (bytes : List UInt8) (next : Bool → Program State Result)
  | read (count : ℕ) (next : Option (Vector UInt8 count) → Program State Result)
  | update {Value : Type} (operation : State → Value × State) (next : Value → Program State Result)

namespace Program

variable {State Result Other : Type}

def isDone : Program State Result → Bool
  | done _ => true
  | _ => false

/-- Continues with the result. -/
def bind : Program State Result → (Result → Program State Other) → Program State Other
  | done result, next => next result
  | write bytes rest, next => write bytes fun ok => (rest ok).bind next
  | read count rest, next => read count fun got => (rest got).bind next
  | update operation rest, next => update operation fun value => (rest value).bind next

theorem bind_assoc {Last : Type} (program : Program State Result)
    (second : Result → Program State Other) (third : Other → Program State Last) :
    (program.bind second).bind third = program.bind fun result => (second result).bind third := by
  induction program with
  | done result => rfl
  | write bytes next ih => simp only [bind, ih]
  | read count next ih => simp only [bind, ih]
  | update operation next ih => simp only [bind, ih]

/-- One step, given the outgoing and the incoming stream and whether the other side is done. -/
def step : Program State Result → State → Pipe → Pipe → Bool →
    Option (Program State Result × State × Pipe × Pipe)
  | done _, _, _, _, _ => none
  | write bytes next, state, outgoing, incoming, _ =>
      some (next (outgoing.write bytes).1, state, (outgoing.write bytes).2, incoming)
  | read count next, state, outgoing, incoming, closed =>
      (incoming.read count closed).map fun (got, incoming) =>
        (next got, state, outgoing, incoming)
  | update operation next, state, outgoing, incoming, _ =>
      some (next (operation state).1, (operation state).2, outgoing, incoming)

/-- What a program comes to when the other side has sent all it will send and is done. -/
def finish : Program State Result → State → Pipe → Pipe → Result × State × Pipe × Pipe
  | done result, state, outgoing, incoming => (result, state, outgoing, incoming)
  | write bytes next, state, outgoing, incoming =>
      (next (outgoing.write bytes).1).finish state (outgoing.write bytes).2 incoming
  | read count next, state, outgoing, incoming =>
      (next (incoming.readClosed count).1).finish state outgoing (incoming.readClosed count).2
  | update operation next, state, outgoing, incoming =>
      (next (operation state).1).finish (operation state).2 outgoing incoming

/-- Every result of a program has a property, whatever it reads. -/
def Always (holds : Result → Prop) : Program State Result → Prop
  | done result => holds result
  | write _ next => ∀ ok, (next ok).Always holds
  | read _ next => ∀ got, (next got).Always holds
  | update _ next => ∀ value, (next value).Always holds

theorem Always.finish {holds : Result → Prop} {program : Program State Result}
    (always : program.Always holds) (state : State) (outgoing incoming : Pipe) :
    holds (program.finish state outgoing incoming).1 := by
  induction program generalizing state outgoing incoming with
  | done result => exact always
  | write bytes next ih => exact ih _ (always _) _ _ _
  | read count next ih => exact ih _ (always _) _ _ _
  | update operation next ih => exact ih _ (always _) _ _ _

end Program

inductive Side where
  | client
  | server
deriving DecidableEq

/-- A connection with the programs on its ends. -/
structure Network (ClientState ClientResult ServerState ServerResult : Type) : Type 1 where
  client : Program ClientState ClientResult
  clientState : ClientState
  server : Program ServerState ServerResult
  serverState : ServerState
  toServer : Pipe
  toClient : Pipe

namespace Network

variable {ClientState ClientResult ServerState ServerResult : Type}

/-- One step of one side. -/
def step (network : Network ClientState ClientResult ServerState ServerResult) :
    Side → Option (Network ClientState ClientResult ServerState ServerResult)
  | .client =>
      (network.client.step network.clientState network.toServer network.toClient
        network.server.isDone).map fun (client, clientState, toServer, toClient) =>
          { network with client, clientState, toServer, toClient }
  | .server =>
      (network.server.step network.serverState network.toClient network.toServer
        network.client.isDone).map fun (server, serverState, toClient, toServer) =>
          { network with server, serverState, toClient, toServer }

/-- A step of the client and a step of the server commute. -/
theorem client_server_commute
    {network left right : Network ClientState ClientResult ServerState ServerResult}
    (clientStepped : network.step .client = some left)
    (serverStepped : network.step .server = some right) :
    ∃ joined, left.step .server = some joined ∧ right.step .client = some joined := by
  rcases network with ⟨client, clientState, server, serverState, toServer, toClient⟩
  cases client with
  | done result => simp [step, Program.step] at clientStepped
  | write sent clientNext =>
      simp only [step, Program.step, Option.map_some, Option.some.injEq] at clientStepped
      subst clientStepped
      cases server with
      | done result => simp [step, Program.step] at serverStepped
      | write answered serverNext =>
          simp only [step, Program.step, Option.map_some, Option.some.injEq] at serverStepped
          subst serverStepped
          exact ⟨_, rfl, rfl⟩
      | read count serverNext =>
          simp only [step, Program.step, Option.map_map, Option.map_eq_some_iff,
            Program.isDone] at serverStepped
          rcases serverStepped with ⟨result, ready, rfl⟩
          rcases Pipe.read_write ready sent (clientNext (toServer.write sent).1).isDone with
            ⟨later, sameFate⟩
          simp only [step, Program.step, later, sameFate, Option.map_some, Function.comp]
          exact ⟨_, rfl, rfl⟩
      | update operation serverNext =>
          simp only [step, Program.step, Option.map_some, Option.some.injEq] at serverStepped
          subst serverStepped
          exact ⟨_, rfl, rfl⟩
  | read count clientNext =>
      cases server with
      | done result => simp [step, Program.step] at serverStepped
      | write answered serverNext =>
          simp only [step, Program.step, Option.map_map, Option.map_eq_some_iff,
            Program.isDone] at clientStepped
          rcases clientStepped with ⟨result, ready, rfl⟩
          simp only [step, Program.step, Option.map_some, Option.some.injEq] at serverStepped
          subst serverStepped
          rcases Pipe.read_write ready answered (serverNext (toClient.write answered).1).isDone with
            ⟨later, sameFate⟩
          simp only [step, Program.step, later, sameFate, Option.map_some, Function.comp]
          exact ⟨_, rfl, rfl⟩
      | read serverCount serverNext =>
          simp only [step, Program.step, Option.map_map, Option.map_eq_some_iff,
            Program.isDone] at clientStepped serverStepped
          rcases clientStepped with ⟨result, ready, rfl⟩
          rcases serverStepped with ⟨answer, arrived, rfl⟩
          simp only [step, Program.step, Pipe.read_of_open ready, Pipe.read_of_open arrived,
            Option.map_some, Function.comp]
          exact ⟨_, rfl, rfl⟩
      | update operation serverNext =>
          simp only [step, Program.step, Option.map_map, Option.map_eq_some_iff,
            Program.isDone] at clientStepped
          rcases clientStepped with ⟨result, ready, rfl⟩
          simp only [step, Program.step, Option.map_some, Option.some.injEq] at serverStepped
          subst serverStepped
          simp only [step, Program.step, Pipe.read_of_open ready, Option.map_some, Function.comp]
          exact ⟨_, rfl, rfl⟩
  | update operation clientNext =>
      simp only [step, Program.step, Option.map_some, Option.some.injEq] at clientStepped
      subst clientStepped
      cases server with
      | done result => simp [step, Program.step] at serverStepped
      | write answered serverNext =>
          simp only [step, Program.step, Option.map_some, Option.some.injEq] at serverStepped
          subst serverStepped
          exact ⟨_, rfl, rfl⟩
      | read count serverNext =>
          simp only [step, Program.step, Option.map_map, Option.map_eq_some_iff,
            Program.isDone] at serverStepped
          rcases serverStepped with ⟨answer, arrived, rfl⟩
          simp only [step, Program.step, Pipe.read_of_open arrived, Option.map_some, Function.comp]
          exact ⟨_, rfl, rfl⟩
      | update second serverNext =>
          simp only [step, Program.step, Option.map_some, Option.some.injEq] at serverStepped
          subst serverStepped
          exact ⟨_, rfl, rfl⟩

section Reaches

variable {client : Program ClientState ClientResult} {clientState : ClientState}
  {server : Program ServerState ServerResult} {serverState : ServerState}
  {toServer toClient : Pipe}

theorem reaches_client_write (bytes : List UInt8)
    (next : Bool → Program ClientState ClientResult) :
    Reaches step ⟨.write bytes next, clientState, server, serverState, toServer, toClient⟩
      ⟨next (toServer.write bytes).1, clientState, server, serverState,
        (toServer.write bytes).2, toClient⟩ :=
  ⟨[.client], rfl⟩

theorem reaches_server_write (bytes : List UInt8)
    (next : Bool → Program ServerState ServerResult) :
    Reaches step ⟨client, clientState, .write bytes next, serverState, toServer, toClient⟩
      ⟨client, clientState, next (toClient.write bytes).1, serverState, toServer,
        (toClient.write bytes).2⟩ :=
  ⟨[.server], rfl⟩

theorem reaches_client_read {count : ℕ} {got : Option (Vector UInt8 count)} {after : Pipe}
    (next : Option (Vector UInt8 count) → Program ClientState ClientResult)
    (ready : toClient.read count server.isDone = some (got, after)) :
    Reaches step ⟨.read count next, clientState, server, serverState, toServer, toClient⟩
      ⟨next got, clientState, server, serverState, toServer, after⟩ := by
  refine ⟨[.client], ?_⟩
  simp [run, step, Program.step, ready]

theorem reaches_server_read {count : ℕ} {got : Option (Vector UInt8 count)} {after : Pipe}
    (next : Option (Vector UInt8 count) → Program ServerState ServerResult)
    (ready : toServer.read count client.isDone = some (got, after)) :
    Reaches step ⟨client, clientState, .read count next, serverState, toServer, toClient⟩
      ⟨client, clientState, next got, serverState, after, toClient⟩ := by
  refine ⟨[.server], ?_⟩
  simp [run, step, Program.step, ready]

theorem reaches_server_update {Value : Type} (operation : ServerState → Value × ServerState)
    (next : Value → Program ServerState ServerResult) :
    Reaches step ⟨client, clientState, .update operation next, serverState, toServer, toClient⟩
      ⟨client, clientState, next (operation serverState).1, (operation serverState).2, toServer,
        toClient⟩ :=
  ⟨[.server], rfl⟩

end Reaches

/-- A client whose server is done gets to its end. -/
theorem reaches_finish (client : Program ClientState ClientResult) (clientState : ClientState)
    (serverResult : ServerResult) (serverState : ServerState) (toServer toClient : Pipe) :
    Reaches step ⟨client, clientState, .done serverResult, serverState, toServer, toClient⟩
      ⟨.done (client.finish clientState toServer toClient).1,
        (client.finish clientState toServer toClient).2.1, .done serverResult, serverState,
        (client.finish clientState toServer toClient).2.2.1,
        (client.finish clientState toServer toClient).2.2.2⟩ := by
  induction client generalizing clientState toServer toClient with
  | done result => exact ⟨[], rfl⟩
  | write bytes next ih => exact (reaches_client_write bytes next).trans (ih _ _ _ _)
  | read count next ih =>
      exact (reaches_client_read next (toClient.read_closed count)).trans (ih _ _ _ _)
  | update operation next ih =>
      refine Reaches.trans ⟨[.client], rfl⟩ (ih _ _ _ _)

/-- The order in which the two sides are scheduled does not matter. -/
theorem independent :
    Independent (@step ClientState ClientResult ServerState ServerResult) := by
  intro network first second left right different firstStepped secondStepped
  cases first with
  | client =>
      cases second with
      | client => exact absurd rfl different
      | server => exact client_server_commute firstStepped secondStepped
  | server =>
      cases second with
      | client =>
          rcases client_server_commute secondStepped firstStepped with ⟨joined, left, right⟩
          exact ⟨joined, right, left⟩
      | server => exact absurd rfl different

/-- When both programs are done, nothing moves. -/
theorem stuck_of_done {network : Network ClientState ClientResult ServerState ServerResult}
    {clientResult : ClientResult} {serverResult : ServerResult}
    (clientDone : network.client = .done clientResult)
    (serverDone : network.server = .done serverResult) : Stuck step network := by
  intro side
  cases side with
  | client => simp [step, clientDone, Program.step]
  | server => simp [step, serverDone, Program.step]

end Network

end ByteStream
