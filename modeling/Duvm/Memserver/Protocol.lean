import Duvm.Backend.TcpWire
import Duvm.Memserver.HandleClient

/-!
# The wire protocol as calls of the page store

What a connection between `TcpBackend` and the memory server amounts to. Each
operation of the backend is one call of the page store; `request` and `response`
are the bytes which it puts on the wire in the two directions, `result` is what
the backend makes of the answer. A connection is cut after any number of bytes in
either direction, and the two sides run in any interleaving.
-/

namespace Duvm.Tcp

open ByteStream Transition

open Memserver (PageStore handleClient dispatch receive respond RESP_ERR)

/-- The calls of the backend on the server. -/
inductive Operation where
  | alloc
  | store (handle : PageHandle) (data : PageBuffer)
  | load (handle : PageHandle)
  | free (handle : PageHandle)

inductive Value where
  | handle (handle : PageHandle)
  | unit
  | page (data : PageBuffer)

/-- The answers of the page store, decoded. -/
def allocReply (store : PageStore) : Except DuvmError UInt64 :=
  match store.allocOffset.1 with
  | some offset => .ok offset
  | none => .error .remoteAllocFailed

def storeReply (store : PageStore) (handle : PageHandle) (data : PageBuffer) :
    Except DuvmError Unit :=
  if (store.store handle.offset data).1 then .ok () else .error .remoteStoreFailed

def loadReply (store : PageStore) (handle : PageHandle) : Except DuvmError PageBuffer :=
  match store.load handle.offset with
  | some data => .ok data
  | none => .error .remoteLoadFailed

def freeReply (store : PageStore) (handle : PageHandle) : Except DuvmError Unit :=
  if (store.free handle.offset).1 then .ok () else .error (.remoteFreeFailed handle)

def ofReply {Answer : Type} (value : Answer → Value) : Except DuvmError Answer → Outcome Value
  | .ok answer => .ok (value answer)
  | .error error => .err error

namespace Operation

def program (backendId : UInt8) : Operation → Program Unit (Outcome Value)
  | .alloc => (allocPage backendId).bind fun outcome => .done (outcome.map .handle)
  | .store handle data => (storePage handle data).bind fun outcome =>
      .done (outcome.map fun _ => .unit)
  | .load handle => (loadPage handle).bind fun outcome => .done (outcome.map .page)
  | .free handle => (freePage handle).bind fun outcome => .done (outcome.map fun _ => .unit)

def request : Operation → List UInt8
  | .alloc => [OP_ALLOC]
  | .store handle data => header OP_STORE handle ++ data.toList
  | .load handle => header OP_LOAD handle
  | .free handle => header OP_FREE handle

/-- The store after the call. -/
def after (store : PageStore) : Operation → PageStore
  | .alloc => store.allocOffset.2
  | .store handle data => (store.store handle.offset data).2
  | .load _ => store
  | .free handle => (store.free handle.offset).2

def status (accepted : Bool) : UInt8 := if accepted then RESP_OK else RESP_ERR

def response (store : PageStore) : Operation → List UInt8
  | .alloc =>
      match store.allocOffset.1 with
      | some offset => RESP_OK :: (LittleEndian.ofUInt64 offset).toList
      | none => RESP_ERR :: List.replicate 8 0
  | .store handle data => [status (store.store handle.offset data).1]
  | .load handle =>
      match store.load handle.offset with
      | some data => RESP_OK :: data.toList
      | none => [RESP_ERR]
  | .free handle => [status (store.free handle.offset).1]

/-- The result of the call, as the backend reports it. -/
def result (backendId : UInt8) (store : PageStore) : Operation → Outcome Value
  | .alloc =>
      match allocReply store with
      | .ok offset =>
          match PageHandle.new backendId offset with
          | some handle => .ok (.handle handle)
          | none => .panic
      | .error error => .err error
  | .store handle data => ofReply (fun _ => .unit) (storeReply store handle data)
  | .load handle => ofReply .page (loadReply store handle)
  | .free handle => ofReply (fun _ => .unit) (freeReply store handle)

end Operation

section Client

variable {Result Answer : Type} {server : Program PageStore Unit} {store : PageStore}
  {toServer toClient : Pipe} {next : Outcome Answer → Program Unit Result}

theorem reaches_writeAll (bytes : List UInt8) (rest : Program Unit (Outcome Answer)) :
    Reaches Network.step ⟨(writeAll bytes rest).bind next, (), server, store, toServer, toClient⟩
      ⟨if bytes.length ≤ toServer.deliver + toServer.unnoticed then rest.bind next
        else next (.err .io), (), server, store, (toServer.write bytes).2, toClient⟩ := by
  have fate : (if (toServer.write bytes).1 then rest else .done (.err .io)).bind next =
      if bytes.length ≤ toServer.deliver + toServer.unnoticed then rest.bind next
      else next (.err .io) := by
    simp only [Pipe.write, decide_eq_true_eq]
    split <;> rfl
  rw [← fate]
  exact Network.reaches_client_write bytes _

/-- Two writes in a row are one. -/
theorem reaches_writeAll_twice (first second : List UInt8)
    (rest : Program Unit (Outcome Answer)) :
    Reaches Network.step
      ⟨(writeAll first (writeAll second rest)).bind next, (), server, store, toServer, toClient⟩
      ⟨if (first ++ second).length ≤ toServer.deliver + toServer.unnoticed then rest.bind next
        else next (.err .io), (), server, store, (toServer.write (first ++ second)).2,
        toClient⟩ := by
  refine (reaches_writeAll first _).trans ?_
  by_cases fits : first.length ≤ toServer.deliver + toServer.unnoticed
  · rw [if_pos fits, ← if_congr (Pipe.fits_write_iff fits) rfl rfl, ← Pipe.write_write]
    exact reaches_writeAll second rest
  · have neither : ¬(first ++ second).length ≤ toServer.deliver + toServer.unnoticed := by
      simp only [List.length_append]
      omega
    rw [if_neg fits, if_neg neither, ← Pipe.write_of_lost (Nat.not_le.mp fits) second]
    exact Reaches.refl _

theorem reaches_readExact {count : ℕ} (bytes : Vector UInt8 count) {rest : List UInt8}
    {deliver unnoticed : ℕ} (use : Vector UInt8 count → Program Unit (Outcome Answer)) :
    Reaches Network.step ⟨(readExact count use).bind next, (), server, store, toServer,
        ⟨bytes.toList ++ rest, deliver, unnoticed⟩⟩
      ⟨(use bytes).bind next, (), server, store, toServer, ⟨rest, deliver, unnoticed⟩⟩ :=
  Network.reaches_client_read _ (Pipe.read_append bytes rfl _)

/-- The answer is cut, or the server is gone. -/
theorem reaches_readExact_failed {count : ℕ} {arrived : List UInt8} {deliver unnoticed : ℕ}
    (use : Vector UInt8 count → Program Unit (Outcome Answer)) (few : arrived.length < count)
    (ended : deliver = 0 ∨ server.isDone = true) :
    Reaches Network.step ⟨(readExact count use).bind next, (), server, store, toServer,
        ⟨arrived, deliver, unnoticed⟩⟩
      ⟨next (.err .io), (), server, store, toServer, ⟨[], deliver, unnoticed⟩⟩ := by
  have ready : Pipe.read ⟨arrived, deliver, unnoticed⟩ count server.isDone =
      some (none, ⟨[], deliver, unnoticed⟩) := by
    rw [Pipe.read_of_length_lt few, if_pos (by simpa using ended)]
  exact Network.reaches_client_read _ ready

end Client

section Server

variable {Result : Type} {client : Program Unit Result} {store : PageStore}
  {toServer toClient : Pipe}

theorem reaches_respond (bytes : List UInt8) (next : Program PageStore Unit) :
    Reaches Network.step ⟨client, (), respond bytes next, store, toServer, toClient⟩
      ⟨client, (), if bytes.length ≤ toClient.deliver + toClient.unnoticed then next else .done (),
        store, toServer, (toClient.write bytes).2⟩ := by
  have fate : (if (toClient.write bytes).1 then next else .done ()) =
      if bytes.length ≤ toClient.deliver + toClient.unnoticed then next else .done () := by
    simp only [Pipe.write, decide_eq_true_eq]
  rw [← fate]
  exact Network.reaches_server_write bytes _

theorem reaches_receive {count : ℕ} (bytes : Vector UInt8 count) {rest : List UInt8}
    {deliver unnoticed : ℕ} (next : Vector UInt8 count → Program PageStore Unit) :
    Reaches Network.step ⟨client, (), receive count next, store,
        ⟨bytes.toList ++ rest, deliver, unnoticed⟩, toClient⟩
      ⟨client, (), next bytes, store, ⟨rest, deliver, unnoticed⟩, toClient⟩ :=
  Network.reaches_server_read _ (Pipe.read_append bytes rfl _)

/-- The request is cut, or the client is gone. -/
theorem reaches_receive_failed {count : ℕ} {arrived : List UInt8} {deliver unnoticed : ℕ}
    (next : Vector UInt8 count → Program PageStore Unit) (few : arrived.length < count)
    (ended : deliver = 0 ∨ client.isDone = true) :
    Reaches Network.step ⟨client, (), receive count next, store,
        ⟨arrived, deliver, unnoticed⟩, toClient⟩
      ⟨client, (), .done (), store, ⟨[], deliver, unnoticed⟩, toClient⟩ := by
  have ready : Pipe.read ⟨arrived, deliver, unnoticed⟩ count client.isDone =
      some (none, ⟨[], deliver, unnoticed⟩) := by
    rw [Pipe.read_of_length_lt few, if_pos (by simpa using ended)]
  exact Network.reaches_server_read _ ready

/-- Two answers in a row are one. -/
theorem reaches_respond_twice (first second : List UInt8) (next : Program PageStore Unit) :
    Reaches Network.step
      ⟨client, (), respond first (respond second next), store, toServer, toClient⟩
      ⟨client, (), if (first ++ second).length ≤ toClient.deliver + toClient.unnoticed then next
        else .done (), store, toServer, (toClient.write (first ++ second)).2⟩ := by
  refine (reaches_respond first _).trans ?_
  by_cases fits : first.length ≤ toClient.deliver + toClient.unnoticed
  · rw [if_pos fits, ← if_congr (Pipe.fits_write_iff fits) rfl rfl, ← Pipe.write_write]
    exact reaches_respond second next
  · have neither : ¬(first ++ second).length ≤ toClient.deliver + toClient.unnoticed := by
      simp only [List.length_append]
      omega
    rw [if_neg fits, if_neg neither, ← Pipe.write_of_lost (Nat.not_le.mp fits) second]
    exact Reaches.refl _

variable {deliver unnoticed fuel : ℕ}

theorem reaches_dispatch (op : UInt8) (rest : List UInt8) :
    Reaches Network.step ⟨client, (), handleClient (fuel + 1), store,
        ⟨op :: rest, deliver, unnoticed⟩, toClient⟩
      ⟨client, (), dispatch op (handleClient fuel), store, ⟨rest, deliver, unnoticed⟩,
        toClient⟩ :=
  reaches_receive #v[op] _

/-- The server answers a request which has arrived completely. -/
theorem reaches_served (operation : Operation) :
    Reaches Network.step ⟨client, (), handleClient (fuel + 1), store,
        ⟨operation.request, deliver, unnoticed⟩, toClient⟩
      ⟨client, (),
        if (operation.response store).length ≤ toClient.deliver + toClient.unnoticed
          then handleClient fuel else .done (),
        operation.after store, ⟨[], deliver, unnoticed⟩,
        (toClient.write (operation.response store)).2⟩ := by
  cases operation with
  | alloc =>
      refine (reaches_dispatch OP_ALLOC []).trans ?_
      refine (Network.reaches_server_update PageStore.allocOffset _).trans ?_
      cases found : store.allocOffset.1 with
      | some offset =>
          have answered : Operation.alloc.response store =
              RESP_OK :: (LittleEndian.ofUInt64 offset).toList := by
            rw [Operation.response, found]
          rw [answered]
          exact reaches_respond _ _
      | none =>
          have answered : Operation.alloc.response store = RESP_ERR :: List.replicate 8 0 := by
            rw [Operation.response, found]
          rw [answered]
          exact reaches_respond _ _
  | store handle data =>
      refine (reaches_dispatch OP_STORE _).trans ?_
      refine (reaches_receive (LittleEndian.ofUInt64 handle.offset) _).trans ?_
      rw [← List.append_nil data.toList]
      refine (reaches_receive data _).trans ?_
      refine (Network.reaches_server_update _ _).trans ?_
      rw [LittleEndian.toUInt64_ofUInt64]
      simp only [Operation.response, Operation.after]
      cases (store.store handle.offset data).1 with
      | true => exact reaches_respond _ _
      | false => exact reaches_respond _ _
  | load handle =>
      refine (reaches_dispatch OP_LOAD _).trans ?_
      rw [← List.append_nil (LittleEndian.ofUInt64 handle.offset).toList]
      refine (reaches_receive (LittleEndian.ofUInt64 handle.offset) _).trans ?_
      refine (Network.reaches_server_update _ _).trans ?_
      rw [LittleEndian.toUInt64_ofUInt64]
      cases found : store.load handle.offset with
      | some data =>
          have answered : (Operation.load handle).response store = [RESP_OK] ++ data.toList := by
            rw [Operation.response, found]
            rfl
          rw [answered]
          exact reaches_respond_twice _ _ _
      | none =>
          have answered : (Operation.load handle).response store = [RESP_ERR] := by
            rw [Operation.response, found]
          rw [answered]
          exact reaches_respond _ _
  | free handle =>
      refine (reaches_dispatch OP_FREE _).trans ?_
      rw [← List.append_nil (LittleEndian.ofUInt64 handle.offset).toList]
      refine (reaches_receive (LittleEndian.ofUInt64 handle.offset) _).trans ?_
      refine (Network.reaches_server_update _ _).trans ?_
      rw [LittleEndian.toUInt64_ofUInt64]
      simp only [Operation.response, Operation.after]
      cases (store.free handle.offset).1 with
      | true => exact reaches_respond _ _
      | false => exact reaches_respond _ _

/-- A request of which only a part arrives ends the session and changes nothing. -/
theorem reaches_request_cut (operation : Operation) {arrived : ℕ}
    (cut : arrived < operation.request.length) :
    Reaches Network.step ⟨client, (), handleClient (fuel + 1), store,
        ⟨operation.request.take arrived, 0, unnoticed⟩, toClient⟩
      ⟨client, (), .done (), store, ⟨[], 0, unnoticed⟩, toClient⟩ := by
  cases arrived with
  | zero => exact reaches_receive_failed _ (by simp) (Or.inl rfl)
  | succ rest =>
      cases operation with
      | alloc => simp [Operation.request] at cut
      | load handle =>
          refine (reaches_dispatch OP_LOAD _).trans ?_
          apply reaches_receive_failed _ _ (Or.inl rfl)
          simp only [Operation.request, header, List.length_cons, Vector.length_toList] at cut
          simp only [List.length_take, Vector.length_toList]
          omega
      | free handle =>
          refine (reaches_dispatch OP_FREE _).trans ?_
          apply reaches_receive_failed _ _ (Or.inl rfl)
          simp only [Operation.request, header, List.length_cons, Vector.length_toList] at cut
          simp only [List.length_take, Vector.length_toList]
          omega
      | store handle data =>
          simp only [Operation.request, header, List.cons_append, List.length_cons,
            List.length_append, Vector.length_toList] at cut
          refine (reaches_dispatch OP_STORE
            (((LittleEndian.ofUInt64 handle.offset).toList ++ data.toList).take rest)).trans ?_
          by_cases inHeader : rest < 8
          · apply reaches_receive_failed _ _ (Or.inl rfl)
            simp only [List.length_take]
            omega
          · have afterHeader : (((LittleEndian.ofUInt64 handle.offset).toList ++
                data.toList).take rest) =
                (LittleEndian.ofUInt64 handle.offset).toList ++ data.toList.take (rest - 8) := by
              rw [List.take_append, List.take_of_length_le (by simp; omega), Vector.length_toList]
            rw [afterHeader]
            refine (reaches_receive (LittleEndian.ofUInt64 handle.offset) _).trans ?_
            apply reaches_receive_failed _ _ (Or.inl rfl)
            simp only [List.length_take, Vector.length_toList]
            omega

end Server

/-- A client which has sent its request and waits for the answer. -/
structure Awaits {Result : Type} (backendId : UInt8) (operation : Operation)
    (next : Outcome Value → Program Unit Result) (client : Program Unit Result) : Prop where
  answered : ∀ {server : Program PageStore Unit} {store : PageStore} {toServer : Pipe}
    {deliver unnoticed : ℕ} (before : PageStore),
    Reaches Network.step
      ⟨client, (), server, store, toServer, ⟨operation.response before, deliver, unnoticed⟩⟩
      ⟨next (operation.result backendId before), (), server, store, toServer,
        ⟨[], deliver, unnoticed⟩⟩
  cut : ∀ {server : Program PageStore Unit} {store : PageStore} {toServer : Pipe}
    {unnoticed : ℕ} (before : PageStore) {arrived : ℕ},
    arrived < (operation.response before).length →
    Reaches Network.step
      ⟨client, (), server, store, toServer,
        ⟨(operation.response before).take arrived, 0, unnoticed⟩⟩
      ⟨next (.err .io), (), server, store, toServer, ⟨[], 0, unnoticed⟩⟩
  closed : ∀ {server : Program PageStore Unit} {store : PageStore} {toServer : Pipe}
    {deliver unnoticed : ℕ}, server.isDone = true →
    Reaches Network.step ⟨client, (), server, store, toServer, ⟨[], deliver, unnoticed⟩⟩
      ⟨next (.err .io), (), server, store, toServer, ⟨[], deliver, unnoticed⟩⟩

theorem exists_vector {bytes : List UInt8} {count : ℕ} (length : bytes.length = count) :
    ∃ vector : Vector UInt8 count, vector.toList = bytes :=
  ⟨⟨bytes.toArray, by simpa using length⟩, rfl⟩

theorem get_zero_of_toList {count : ℕ} {bytes : Vector UInt8 (count + 1)} {byte : UInt8}
    {rest : List UInt8} (listed : bytes.toList = byte :: rest) : bytes.get 0 = byte := by
  have first : bytes.toList[0]? = some byte := by
    rw [listed]
    rfl
  have isFirst : bytes[0] = byte := by simpa using first
  exact isFirst

theorem drop_one_of_toList {bytes : Vector UInt8 9} {byte : UInt8} {word : Vector UInt8 8}
    (listed : bytes.toList = byte :: word.toList) : (bytes.drop 1 : Vector UInt8 8) = word := by
  apply Vector.toList_inj.mp
  refine Vector.toList_drop.trans ?_
  rw [listed]
  rfl

theorem length_response_alloc (store : PageStore) :
    (Operation.alloc.response store).length = 9 := by
  simp only [Operation.response]
  split
  · simp
  · rfl

section Awaits

variable {Result : Type} {backendId : UInt8} {next : Outcome Value → Program Unit Result}

theorem awaits_alloc :
    Awaits backendId .alloc next
      ((readExact 9 fun resp =>
        if resp.get 0 ≠ RESP_OK then .done (.err .remoteAllocFailed)
        else
          match PageHandle.new backendId (LittleEndian.toUInt64 (resp.drop 1)) with
          | some handle => .done (.ok handle)
          | none => .done .panic).bind fun outcome => next (outcome.map .handle)) where
  answered := by
    intro server store toServer deliver unnoticed before
    rcases exists_vector (length_response_alloc before) with ⟨resp, listed⟩
    rw [← listed, ← List.append_nil resp.toList]
    refine (reaches_readExact resp _).trans ?_
    simp only [Operation.response, Operation.result, allocReply] at listed ⊢
    cases allocated : before.allocOffset.1 with
    | some offset =>
        rw [allocated] at listed
        rw [get_zero_of_toList listed, drop_one_of_toList listed,
          LittleEndian.toUInt64_ofUInt64]
        cases created : PageHandle.new backendId offset with
        | some handle =>
            simp only [created]
            exact Reaches.refl _
        | none =>
            simp only [created]
            exact Reaches.refl _
    | none =>
        rw [allocated] at listed
        rw [get_zero_of_toList listed]
        exact Reaches.refl _
  cut := by
    intro server store toServer unnoticed before arrived isCut
    rw [length_response_alloc] at isCut
    apply reaches_readExact_failed _ _ (Or.inl rfl)
    simp only [List.length_take]
    omega
  closed := by
    intro server store toServer deliver unnoticed isDone
    exact reaches_readExact_failed _ (by simp) (Or.inr isDone)

/-- Waiting for a single status byte. -/
theorem awaits_status {operation : Operation} {accepted : PageStore → Bool} {failed : DuvmError}
    (response : ∀ store, operation.response store = [Operation.status (accepted store)])
    (result : ∀ store, operation.result backendId store = ofReply (fun _ => .unit)
      (if accepted store then .ok () else .error failed)) :
    Awaits backendId operation next
      ((readExact 1 fun resp => if resp.get 0 ≠ RESP_OK then .done (.err failed)
        else .done (.ok ())).bind fun outcome => next (outcome.map fun _ => .unit)) where
  answered := by
    intro server store toServer deliver unnoticed before
    rw [response, result]
    refine (reaches_readExact #v[Operation.status (accepted before)] _).trans ?_
    cases accepted before with
    | true => exact Reaches.refl _
    | false => exact Reaches.refl _
  cut := by
    intro server store toServer unnoticed before arrived isCut
    rw [response, List.length_singleton] at isCut
    apply reaches_readExact_failed _ _ (Or.inl rfl)
    simp only [List.length_take]
    omega
  closed := by
    intro server store toServer deliver unnoticed isDone
    exact reaches_readExact_failed _ (by simp) (Or.inr isDone)

theorem awaits_load (handle : PageHandle) :
    Awaits backendId (.load handle) next
      ((readExact 1 fun status =>
        if status.get 0 ≠ RESP_OK then .done (.err .remoteLoadFailed)
        else readExact PAGE_SIZE fun buf => .done (.ok buf)).bind fun outcome =>
          next (outcome.map .page)) where
  answered := by
    intro server store toServer deliver unnoticed before
    simp only [Operation.response, Operation.result, loadReply]
    cases before.load handle.offset with
    | some data =>
        simp only
        rw [← List.append_nil data.toList]
        refine (reaches_readExact #v[RESP_OK] _).trans ?_
        exact reaches_readExact data _
    | none => exact reaches_readExact #v[RESP_ERR] _
  cut := by
    intro server store toServer unnoticed before arrived isCut
    simp only [Operation.response] at isCut ⊢
    cases arrived with
    | zero => exact reaches_readExact_failed _ (by simp) (Or.inl rfl)
    | succ rest =>
        cases loaded : before.load handle.offset with
        | some data =>
            rw [loaded] at isCut
            simp only [List.length_cons, Vector.length_toList] at isCut
            refine (reaches_readExact #v[RESP_OK] _).trans ?_
            apply reaches_readExact_failed _ _ (Or.inl rfl)
            simp only [List.length_take]
            omega
        | none =>
            rw [loaded] at isCut
            simp at isCut
  closed := by
    intro server store toServer deliver unnoticed isDone
    exact reaches_readExact_failed _ (by simp) (Or.inr isDone)

end Awaits

section Exchange

variable {Result : Type} {backendId : UInt8} {next : Outcome Value → Program Unit Result}
  {store : PageStore} {fuel : ℕ}

/-- The client has sent its request and waits, or it has noticed that bytes were lost. -/
def Sent (backendId : UInt8) (operation : Operation) (next : Outcome Value → Program Unit Result)
    (client : Program Unit Result) (deliver : ℕ) : Prop :=
  Awaits backendId operation next client ∨
    client = next (.err .io) ∧ deliver < operation.request.length

theorem reaches_sent (backendId : UInt8) (operation : Operation)
    (next : Outcome Value → Program Unit Result) (server : Program PageStore Unit)
    (store : PageStore) (toServer toClient : Pipe) :
    ∃ client, Reaches Network.step
        ⟨(operation.program backendId).bind next, (), server, store, toServer, toClient⟩
        ⟨client, (), server, store, (toServer.write operation.request).2, toClient⟩ ∧
      Sent backendId operation next client toServer.deliver := by
  cases operation with
  | alloc =>
      rw [Operation.program, Program.bind_assoc]
      refine ⟨_, reaches_writeAll [OP_ALLOC] _, ?_⟩
      split
      · exact Or.inl awaits_alloc
      · exact Or.inr ⟨rfl, by simp only [Operation.request]; omega⟩
  | load handle =>
      rw [Operation.program, Program.bind_assoc]
      refine ⟨_, reaches_writeAll (header OP_LOAD handle) _, ?_⟩
      split
      · exact Or.inl (awaits_load handle)
      · exact Or.inr ⟨rfl, by simp only [Operation.request]; omega⟩
  | free handle =>
      rw [Operation.program, Program.bind_assoc]
      refine ⟨_, reaches_writeAll (header OP_FREE handle) _, ?_⟩
      split
      · exact Or.inl (awaits_status (fun _ => rfl) (fun _ => rfl))
      · exact Or.inr ⟨rfl, by simp only [Operation.request]; omega⟩
  | store handle data =>
      rw [Operation.program, Program.bind_assoc]
      refine ⟨_, reaches_writeAll_twice (header OP_STORE handle) data.toList _, ?_⟩
      split
      · exact Or.inl (awaits_status (fun _ => rfl) (fun _ => rfl))
      · exact Or.inr ⟨rfl, by simp only [Operation.request]; omega⟩

variable {requestCut requestUnnoticed responseCut responseUnnoticed : ℕ}

/-- An exchange which is not cut is the call of the page store, and leaves no bytes behind. -/
theorem reaches_exchanged (backendId : UInt8) (operation : Operation)
    (next : Outcome Value → Program Unit Result) (fuel requestUnnoticed responseUnnoticed : ℕ)
    (requestFits : operation.request.length ≤ requestCut)
    (responseFits : (operation.response store).length ≤ responseCut) :
    Reaches Network.step
      ⟨(operation.program backendId).bind next, (), handleClient (fuel + 1), store,
        ⟨[], requestCut, requestUnnoticed⟩, ⟨[], responseCut, responseUnnoticed⟩⟩
      ⟨next (operation.result backendId store), (), handleClient fuel, operation.after store,
        ⟨[], requestCut - operation.request.length, requestUnnoticed⟩,
        ⟨[], responseCut - (operation.response store).length, responseUnnoticed⟩⟩ := by
  rcases reaches_sent backendId operation next (handleClient (fuel + 1)) store
    ⟨[], requestCut, requestUnnoticed⟩ ⟨[], responseCut, responseUnnoticed⟩ with
    ⟨client, sent, awaits | ⟨_, lost⟩⟩
  · rw [Pipe.write_of_le requestFits] at sent
    refine sent.trans ((reaches_served operation).trans ?_)
    have accepted : (operation.response store).length ≤ responseCut + responseUnnoticed := by omega
    rw [if_pos accepted, Pipe.write_of_le responseFits]
    exact awaits.answered store
  · simp only at lost
    omega

/-- When the client is gone, the server ends the session. -/
theorem reaches_session_end {client : Program Unit Result} {toClient : Pipe}
    {deliver unnoticed : ℕ} (gone : client.isDone = true) :
    Reaches Network.step
      ⟨client, (), handleClient fuel, store, ⟨[], deliver, unnoticed⟩, toClient⟩
      ⟨client, (), .done (), store, ⟨[], deliver, unnoticed⟩, toClient⟩ := by
  cases fuel with
  | zero => exact Reaches.refl _
  | succ fuel => exact reaches_receive_failed _ (by simp) (Or.inr gone)

/-- Both sides are done, and no bytes are left behind. -/
structure Ended (network : Network Unit Result PageStore Unit) (result : Result)
    (store : PageStore) : Prop where
  client : network.client = .done result
  server : network.server = .done ()
  store : network.serverState = store
  toServer : network.toServer.pending = []
  toClient : network.toClient.pending = []

/-- An exchange which is cut is an error for the client, and for the server it has happened
completely or not at all. -/
theorem reaches_cut (backendId : UInt8) (operation : Operation)
    (next : Outcome Value → Program Unit Result) {result : Result}
    (isCut : requestCut < operation.request.length ∨
      responseCut < (operation.response store).length)
    (stops : next (.err .io) = .done result) :
    ∃ final, Reaches Network.step
        ⟨(operation.program backendId).bind next, (), handleClient (fuel + 1), store,
          ⟨[], requestCut, requestUnnoticed⟩, ⟨[], responseCut, responseUnnoticed⟩⟩ final ∧
      Ended final result
        (if requestCut < operation.request.length then store else operation.after store) := by
  rcases reaches_sent backendId operation next (handleClient (fuel + 1)) store
    ⟨[], requestCut, requestUnnoticed⟩ ⟨[], responseCut, responseUnnoticed⟩ with
    ⟨client, sent, outcome⟩
  by_cases lost : requestCut < operation.request.length
  · have nothingMore : requestCut - operation.request.length = 0 := by omega
    simp only [Pipe.write, List.nil_append, nothingMore] at sent
    have refused := sent.trans (reaches_request_cut operation lost)
    rw [if_pos lost]
    rcases outcome with awaits | ⟨failed, _⟩
    · refine ⟨_, refused.trans (awaits.closed rfl), ?_⟩
      exact ⟨stops, rfl, rfl, rfl, rfl⟩
    · exact ⟨_, refused, failed.trans stops, rfl, rfl, rfl, rfl⟩
  · have requestFits := Nat.not_lt.mp lost
    have responseLost : responseCut < (operation.response store).length := by omega
    rcases outcome with awaits | ⟨_, lostAfterAll⟩
    · rw [Pipe.write_of_le requestFits] at sent
      have served := sent.trans (reaches_served operation)
      have nothingMore : responseCut - (operation.response store).length = 0 := by omega
      simp only [Pipe.write, List.nil_append, nothingMore] at served
      have failed := served.trans (awaits.cut store responseLost)
      rw [stops] at failed
      rw [if_neg lost]
      split at failed
      · refine ⟨_, failed.trans (reaches_session_end rfl), ?_⟩
        exact ⟨rfl, rfl, rfl, rfl, rfl⟩
      · exact ⟨_, failed, rfl, rfl, rfl, rfl, rfl⟩
    · simp only at lostAfterAll
      omega

end Exchange

/-- The calls made on one connection, with the store as each of them finds it. A call which
fails is the last one, since the backend then drops the connection. -/
def exchanges (backendId : UInt8) : PageStore → List Operation → List (Operation × PageStore)
  | _, [] => []
  | store, operation :: rest =>
      (operation, store) ::
        match operation.result backendId store with
        | .ok _ => exchanges backendId (operation.after store) rest
        | _ => []

def requestBytes (calls : List (Operation × PageStore)) : ℕ :=
  (calls.map fun call => call.1.request.length).sum

def responseBytes (calls : List (Operation × PageStore)) : ℕ :=
  (calls.map fun call => (call.1.response call.2).length).sum

def results (backendId : UInt8) (calls : List (Operation × PageStore)) : List (Outcome Value) :=
  calls.map fun call => call.1.result backendId call.2

def stateAfter (store : PageStore) (calls : List (Operation × PageStore)) : PageStore :=
  calls.foldl (fun _ call => call.1.after call.2) store

/-- The backend reports the results of the calls of the page store. When the connection is cut
in the middle of a call, that call fails and is the last one, and the server has executed it
completely or not at all. -/
structure AtomicUpToCut (backendId : UInt8) (store : PageStore)
    (calls : List (Operation × PageStore)) (requestCut responseCut : ℕ)
    (reported : List (Outcome Value)) (final : PageStore) : Prop where
  whole : requestBytes calls ≤ requestCut → responseBytes calls ≤ responseCut →
    reported = results backendId calls ∧ final = stateAfter store calls
  cut : requestCut < requestBytes calls ∨ responseCut < responseBytes calls →
    ∃ completed applied, completed < calls.length ∧
      (applied = completed ∨ applied = completed + 1) ∧
      reported = results backendId (calls.take completed) ++ [.err .io] ∧
      final = stateAfter store (calls.take applied)

/-- What follows a call: the next one, or nothing after a failure. -/
def proceed (following : List (Outcome Value) → Program Unit (List (Outcome Value)))
    (reported : List (Outcome Value)) (outcome : Outcome Value) :
    Program Unit (List (Outcome Value)) :=
  match outcome with
  | .ok _ => following (reported ++ [outcome])
  | _ => .done (reported ++ [outcome])

/-- The calls of the backend on one connection. -/
def session (backendId : UInt8) :
    List Operation → List (Outcome Value) → Program Unit (List (Outcome Value))
  | [], reported => .done reported
  | operation :: rest, reported =>
      (operation.program backendId).bind (proceed (session backendId rest) reported)

section Session

variable {backendId : UInt8} {store : PageStore} {operation : Operation}
  {requestCut responseCut : ℕ} {reported : List (Outcome Value)} {final : PageStore}

theorem AtomicUpToCut.nil (backendId : UInt8) (store : PageStore) (requestCut responseCut : ℕ) :
    AtomicUpToCut backendId store [] requestCut responseCut [] store where
  whole := fun _ _ => ⟨rfl, rfl⟩
  cut := by
    intro impossible
    simp [requestBytes, responseBytes] at impossible

/-- One more call in front, which was not cut. -/
theorem AtomicUpToCut.cons {calls : List (Operation × PageStore)}
    (requestFits : operation.request.length ≤ requestCut)
    (responseFits : (operation.response store).length ≤ responseCut)
    (later : AtomicUpToCut backendId (operation.after store) calls
      (requestCut - operation.request.length)
      (responseCut - (operation.response store).length) reported final) :
    AtomicUpToCut backendId store ((operation, store) :: calls) requestCut responseCut
      (operation.result backendId store :: reported) final where
  whole := by
    intro requestWhole responseWhole
    simp only [requestBytes, responseBytes, List.map_cons, List.sum_cons] at *
    rcases later.whole (by simp only [requestBytes]; omega) (by simp only [responseBytes]; omega)
      with ⟨same, reached⟩
    exact ⟨by rw [same]; rfl, reached⟩
  cut := by
    intro isCut
    simp only [requestBytes, responseBytes, List.map_cons, List.sum_cons] at *
    rcases later.cut (by simp only [requestBytes, responseBytes]; omega) with
      ⟨completed, applied, inside, close, same, reached⟩
    refine ⟨completed + 1, applied + 1, ?_, by omega, by rw [same]; rfl, reached⟩
    rw [List.length_cons]
    omega

/-- A call which was cut. -/
theorem AtomicUpToCut.of_cut {calls : List (Operation × PageStore)}
    (isCut : requestCut < operation.request.length ∨
      responseCut < (operation.response store).length) :
    AtomicUpToCut backendId store ((operation, store) :: calls) requestCut responseCut [.err .io]
      (if requestCut < operation.request.length then store else operation.after store) where
  whole := by
    intro requestWhole responseWhole
    simp only [requestBytes, responseBytes, List.map_cons, List.sum_cons]
      at requestWhole responseWhole
    omega
  cut := by
    intro _
    by_cases lost : requestCut < operation.request.length
    · rw [if_pos lost]
      exact ⟨0, 0, Nat.succ_pos _, Or.inl rfl, rfl, rfl⟩
    · rw [if_neg lost]
      exact ⟨0, 1, Nat.succ_pos _, Or.inr rfl, rfl, rfl⟩

theorem reaches_session_ended (backendId : UInt8) (operations : List Operation) (spare : ℕ)
    (store : PageStore) (earlier : List (Outcome Value))
    (requestCut requestUnnoticed responseCut responseUnnoticed : ℕ) :
    ∃ network reported final, Reaches Network.step
        ⟨session backendId operations earlier, (), handleClient (operations.length + spare + 1),
          store, ⟨[], requestCut, requestUnnoticed⟩, ⟨[], responseCut, responseUnnoticed⟩⟩
        network ∧
      Ended network (earlier ++ reported) final ∧
      AtomicUpToCut backendId store (exchanges backendId store operations) requestCut responseCut
        reported final := by
  induction operations generalizing store earlier requestCut responseCut with
  | nil =>
      refine ⟨_, [], store, reaches_session_end rfl, ?_, AtomicUpToCut.nil _ _ _ _⟩
      exact ⟨by rw [List.append_nil]; rfl, rfl, rfl, rfl, rfl⟩
  | cons operation rest ih =>
      have fuelSplit : (operation :: rest).length + spare + 1 = rest.length + spare + 1 + 1 := by
        simp only [List.length_cons]
        omega
      rw [fuelSplit]
      by_cases isCut : requestCut < operation.request.length ∨
          responseCut < (operation.response store).length
      · rcases reaches_cut backendId operation (proceed (session backendId rest) earlier) isCut
          rfl with ⟨network, reaches, ended⟩
        exact ⟨network, [.err .io], _, reaches, ended, AtomicUpToCut.of_cut isCut⟩
      · have requestFits : operation.request.length ≤ requestCut := by omega
        have responseFits : (operation.response store).length ≤ responseCut := by omega
        have exchanged := reaches_exchanged backendId operation
          (proceed (session backendId rest) earlier) (rest.length + spare + 1) requestUnnoticed
          responseUnnoticed requestFits responseFits
        rw [exchanges]
        cases outcome : operation.result backendId store with
        | ok value =>
            rw [outcome] at exchanged
            rcases ih (operation.after store) (earlier ++ [.ok value])
              (requestCut - operation.request.length)
              (responseCut - (operation.response store).length) with
              ⟨network, reported, final, reaches, ended, atomic⟩
            rw [List.append_assoc] at ended
            refine ⟨network, .ok value :: reported, final, exchanged.trans reaches, ended, ?_⟩
            have whole := atomic.cons requestFits responseFits
            rw [outcome] at whole
            exact whole
        | err error =>
            rw [outcome] at exchanged
            refine ⟨_, [.err error], operation.after store,
              exchanged.trans (reaches_session_end rfl), ⟨rfl, rfl, rfl, rfl, rfl⟩, ?_⟩
            have whole := (AtomicUpToCut.nil backendId _ _ _).cons requestFits responseFits
            rw [outcome] at whole
            exact whole
        | panic =>
            rw [outcome] at exchanged
            refine ⟨_, [.panic], operation.after store,
              exchanged.trans (reaches_session_end rfl), ⟨rfl, rfl, rfl, rfl, rfl⟩, ?_⟩
            have whole := (AtomicUpToCut.nil backendId _ _ _).cons requestFits responseFits
            rw [outcome] at whole
            exact whole

end Session

/-- A connection over which the backend makes its calls. -/
def connection (backendId : UInt8) (operations : List Operation) (spare : ℕ) (store : PageStore)
    (toServer toClient : Pipe) : Network Unit (List (Outcome Value)) PageStore Unit :=
  ⟨session backendId operations [], (), handleClient (operations.length + spare + 1), store,
    toServer, toClient⟩

/-- Whatever the interleaving and wherever the connection is cut, all goes as if the calls were
made on the page store directly, up to the one in which the cut falls. -/
theorem connection_refines_pageStore (backendId : UInt8) (operations : List Operation)
    (spare : ℕ) (store : PageStore)
    (requestCut requestUnnoticed responseCut responseUnnoticed : ℕ) :
    ∃ steps reported final,
      AtomicUpToCut backendId store (exchanges backendId store operations) requestCut responseCut
        reported final ∧
      ∀ taken reached,
        run Network.step (connection backendId operations spare store
          ⟨[], requestCut, requestUnnoticed⟩ ⟨[], responseCut, responseUnnoticed⟩) taken =
            some reached →
        ∃ rest network, run Network.step reached rest = some network ∧
          taken.length + rest.length = steps ∧ Ended network reported final := by
  rcases reaches_session_ended backendId operations spare store [] requestCut requestUnnoticed
    responseCut responseUnnoticed with ⟨network, reported, final, ⟨schedule, ran⟩, ended, atomic⟩
  refine ⟨schedule.length, reported, final, atomic, ?_⟩
  intro taken reached started
  have stuck : Stuck Network.step network := Network.stuck_of_done ended.client ended.server
  rcases exists_completion Network.independent stuck ran started with ⟨rest, ranRest, counted⟩
  exact ⟨rest, network, ranRest, counted, ended⟩

end Duvm.Tcp
