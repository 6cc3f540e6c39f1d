import Duvm.Backend.Trait
import Duvm.Kmod.Ring

/-!
# The daemon's side of the ring

`KmodRingConsumer::poll_once` of `duvm-daemon/src/kmod_ring.rs` consumes one
request, has the engine execute it and publishes one completion. It is stated
for any engine: `EngineModel` is what the consumer sees of one, with an
environment for whatever else the outcome of a call depends on. When the engine
panics the consumer thread unwinds before it writes to the shared memory.
-/

namespace Duvm.Daemon

open Function (update)
open Duvm.Kmod

universe u v

/-- An engine as the ring consumer uses it. -/
structure EngineModel (Env : Type u) (Engine : Type v) where
  storePage : Env → Engine → UInt64 → PageBuffer → Outcome PageHandle × Engine
  loadPage : Env → Engine → UInt64 → Except DuvmError PageBuffer × Engine

/-- An engine which is a correct map from offsets to pages: a call which fails changes
nothing, a load returns the page stored last. -/
structure PageMap {Env : Type u} {Engine : Type v} (model : EngineModel Env Engine) where
  contents : Engine → UInt64 → Option PageBuffer
  stored : ∀ {env engine offset page handle next},
    model.storePage env engine offset page = (.ok handle, next) →
      contents next = update (contents engine) offset (some page)
  notStored : ∀ {env engine offset page error next},
    model.storePage env engine offset page = (.err error, next) → contents next = contents engine
  loaded : ∀ {env engine offset page next},
    model.loadPage env engine offset = (.ok page, next) →
      contents engine offset = some page ∧ contents next = contents engine
  notLoaded : ∀ {env engine offset error next},
    model.loadPage env engine offset = (.error error, next) → contents next = contents engine

/-- The plain page map, with the choice to refuse a store. -/
def plainModel : EngineModel Bool (UInt64 → Option PageBuffer) where
  storePage accept engine offset page :=
    if accept then (.ok ⟨offset⟩, update engine offset (some page))
    else (.err .fullAfterEviction, engine)
  loadPage _ engine offset :=
    match engine offset with
    | some page => (.ok page, engine)
    | none => (.error (.offsetNotFound offset), engine)

def plainMap : PageMap plainModel where
  contents engine := engine
  stored := by
    intro accept engine offset page handle next stored
    cases accept with
    | true => exact (congrArg Prod.snd stored).symm
    | false => simp [plainModel] at stored
  notStored := by
    intro accept engine offset page error next refused
    cases accept with
    | true => simp [plainModel] at refused
    | false => exact (congrArg Prod.snd refused).symm
  loaded := by
    intro env engine offset page next loaded
    simp only [plainModel] at loaded
    split at loaded
    · next found => simp_all
    · simp at loaded
  notLoaded := by
    intro env engine offset error next failed
    simp only [plainModel] at failed
    split at failed
    · simp at failed
    · simp_all

/-- What one request came to: the page given to the engine, the page it gave back, and
the result which the completion carries. -/
structure Execution where
  request : DuvmRequest
  given : Option PageBuffer
  returned : Option PageBuffer
  result : ℤ
deriving DecidableEq

inductive PollOutcome (Engine : Type v) where
  | idle
  | panicked (engine : Engine)
  | served (execution : Execution) (ring : DuvmRing) (engine : Engine)

/-- Advances the request ring past the request and publishes its completion. -/
def publish (ring : DuvmRing) (request : DuvmRequest) (result : ℤ) : DuvmRing :=
  { ring with
    reqReadIdx := RingBuffer.advance ring.capacity ring.reqReadIdx
    completions :=
      update ring.completions ring.compWriteIdx ⟨request.seq, result, request.stagingSlot⟩
    compWriteIdx := RingBuffer.advance ring.capacity ring.compWriteIdx }

variable {Env : Type u} {Engine : Type v}

def pollOnce (model : EngineModel Env Engine) (env : Env) (ring : DuvmRing) (engine : Engine) :
    PollOutcome Engine :=
  if ring.reqReadIdx = ring.reqWriteIdx then .idle
  else
    let req := ring.requests ring.reqReadIdx
    let stagingOffset := req.stagingSlot * PAGE_SIZE
    match req.op with
    | .store =>
        let pageData := readPage ring.staging stagingOffset
        match model.storePage env engine req.offset pageData with
        | (.ok _, engine) =>
            .served ⟨req, some pageData, none, 0⟩ (publish ring req 0) engine
        | (.err _, engine) =>
            .served ⟨req, some pageData, none, -1⟩ (publish ring req (-1)) engine
        | (.panic, engine) => .panicked engine
    | .load =>
        match model.loadPage env engine req.offset with
        | (.ok pageData, engine) =>
            let filled :=
              { ring with staging := ring.staging.write stagingOffset pageData.toList }
            .served ⟨req, none, some pageData, 0⟩ (publish filled req 0) engine
        | (.error _, engine) =>
            .served ⟨req, none, none, -1⟩ (publish ring req (-1)) engine
    | _ => .served ⟨req, none, none, -1⟩ (publish ring req (-1)) engine

/-- The call of the engine behind an execution, with what it returned. -/
inductive Executes (model : EngineModel Env Engine) (engine : Engine) :
    Execution → Engine → Prop where
  | stored {request : DuvmRequest} {page : PageBuffer} {handle : PageHandle} {next : Engine}
      (env : Env) (op : request.op = .store)
      (call : model.storePage env engine request.offset page = (.ok handle, next)) :
      Executes model engine ⟨request, some page, none, 0⟩ next
  | storeFailed {request : DuvmRequest} {page : PageBuffer} {error : DuvmError} {next : Engine}
      (env : Env) (op : request.op = .store)
      (call : model.storePage env engine request.offset page = (.err error, next)) :
      Executes model engine ⟨request, some page, none, -1⟩ next
  | loaded {request : DuvmRequest} {page : PageBuffer} {next : Engine}
      (env : Env) (op : request.op = .load)
      (call : model.loadPage env engine request.offset = (.ok page, next)) :
      Executes model engine ⟨request, none, some page, 0⟩ next
  | loadFailed {request : DuvmRequest} {error : DuvmError} {next : Engine}
      (env : Env) (op : request.op = .load)
      (call : model.loadPage env engine request.offset = (.error error, next)) :
      Executes model engine ⟨request, none, none, -1⟩ next
  | unknown {request : DuvmRequest} (notStore : request.op ≠ .store)
      (notLoad : request.op ≠ .load) :
      Executes model engine ⟨request, none, none, -1⟩ engine

variable {execution : Execution} {model : EngineModel Env Engine}

theorem Executes.exists_given {engine next : Engine}
    (executes : Executes model engine execution next) (isStore : execution.request.op = .store) :
    ∃ page, execution.given = some page := by
  cases executes with
  | stored => exact ⟨_, rfl⟩
  | storeFailed => exact ⟨_, rfl⟩
  | loaded _ isLoad => simp [isLoad] at isStore
  | loadFailed _ isLoad => simp [isLoad] at isStore
  | unknown notStore => exact absurd isStore notStore

theorem Executes.exists_returned {engine next : Engine}
    (executes : Executes model engine execution next) (isLoad : execution.request.op = .load)
    (succeeded : execution.result = 0) :
    ∃ page, execution.returned = some page := by
  cases executes with
  | loaded => exact ⟨_, rfl⟩
  | loadFailed => simp at succeeded
  | stored _ isStore => simp [isStore] at isLoad
  | storeFailed => simp at succeeded
  | unknown => simp at succeeded

/-- The staging buffer once a page returned by the engine has been copied in. -/
def Execution.fill (execution : Execution) (staging : ByteMemory) : ByteMemory :=
  match execution.returned with
  | some page => staging.write (execution.request.stagingSlot * PAGE_SIZE) page.toList
  | none => staging

/-- All that a call of `poll_once` which serves a request does. -/
theorem pollOnce_served {env : Env} {ring after : DuvmRing} {engine next : Engine}
    (served : pollOnce model env ring engine = .served execution after next) :
    ring.reqReadIdx ≠ ring.reqWriteIdx ∧
      execution.request = ring.requests ring.reqReadIdx ∧
      after = publish { ring with staging := execution.fill ring.staging }
        execution.request execution.result ∧
      Executes model engine execution next ∧
      ∀ page, execution.given = some page →
        page = readPage ring.staging (execution.request.stagingSlot * PAGE_SIZE) := by
  unfold pollOnce at served
  split at served
  · simp at served
  · next pending =>
      refine ⟨pending, ?_⟩
      simp only at served
      split at served
      · next isStore =>
          split at served
          · next handle engine' call =>
              simp only [PollOutcome.served.injEq] at served
              rcases served with ⟨rfl, rfl, rfl⟩
              refine ⟨rfl, rfl, .stored env isStore call, ?_⟩
              intro page given
              exact (Option.some.inj given).symm
          · next error engine' call =>
              simp only [PollOutcome.served.injEq] at served
              rcases served with ⟨rfl, rfl, rfl⟩
              refine ⟨rfl, rfl, .storeFailed env isStore call, ?_⟩
              intro page given
              exact (Option.some.inj given).symm
          · simp at served
      · next isLoad =>
          split at served
          · next page engine' call =>
              simp only [PollOutcome.served.injEq] at served
              rcases served with ⟨rfl, rfl, rfl⟩
              exact ⟨rfl, rfl, .loaded env isLoad call, nofun⟩
          · next error engine' call =>
              simp only [PollOutcome.served.injEq] at served
              rcases served with ⟨rfl, rfl, rfl⟩
              exact ⟨rfl, rfl, .loadFailed env isLoad call, nofun⟩
      · next notStore notLoad =>
          simp only [PollOutcome.served.injEq] at served
          rcases served with ⟨rfl, rfl, rfl⟩
          exact ⟨rfl, rfl, .unknown notStore notLoad, nofun⟩

end Duvm.Daemon
