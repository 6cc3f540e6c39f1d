import Duvm.Kmod.Matching

/-!
# Durability across connections

Two stores serve the same pages: the daemon's engine while a daemon is
connected and the xarray of the kernel module while none is. Nothing moves
pages from one to the other when the connection changes, so a page written to
one of them reads as whatever the other one holds. What is durable is what is
read from the store which took the page's last successful write; the theorem
says so for every run, and the run at the end writes a page through a daemon,
disconnects it and reads zeros.
-/

namespace Duvm.Kmod

open Function (update)
open Duvm.Daemon

universe u v

/-- A page-aligned request for one page. -/
def Request.WholePage (rq : Request) : Prop :=
  rq.pos % UInt64.ofNat DUVM_PAGE_SECTORS = 0 ∧
    ∃ data, rq.segments = [⟨0, data⟩] ∧ data.length = PAGE_SIZE

theorem Request.WholePage.singlePage {rq : Request} (whole : rq.WholePage) : rq.SinglePage := by
  rcases whole with ⟨_, data, segments, isPage⟩
  simp [SinglePage, bytes, segments, isPage]

theorem Request.wholePage_ofPage (index : UInt64) (dir : Direction) (page : PageBuffer) :
    (Request.ofPage index dir page).WholePage := by
  refine ⟨?_, page.toList, rfl, PageBuffer.length_toList page⟩
  apply UInt64.toNat_inj.mp
  have eight : (UInt64.ofNat DUVM_PAGE_SECTORS).toNat = 8 := rfl
  simp only [ofPage, UInt64.toNat_mod, UInt64.toNat_mul, eight]
  change index.toNat * 8 % 2 ^ 64 % 8 = 0
  omega

/-- A successful WRITE of the page. -/
def Ending.writes (page : UInt64) (ending : Ending) : Bool :=
  ending.completed.rq.dir = .write ∧ ending.completed.status = .ok ∧
    ending.completed.rq.index = page

/-- The most recent successful WRITE of the page. -/
def lastWrite (log : List Ending) (page : UInt64) : Option Ending := Log.last? (·.writes page) log

theorem lastWrite_concat (log : List Ending) (ending : Ending) (page : UInt64) :
    lastWrite (log ++ [ending]) page =
      if ending.writes page then some ending else lastWrite log page :=
  Log.last?_concat _ log ending

/-- What a read of the page has to return. -/
def durableBytes (log : List Ending) (page : UInt64) : List UInt8 :=
  match lastWrite log page with
  | some write => write.completed.rq.bytes
  | none => List.replicate PAGE_SIZE 0

/-- Every successful READ returned the data of the most recent successful WRITE. -/
def DurableLog (log : List Ending) : Prop :=
  ∀ (index : ℕ) (ending : Ending), log[index]? = some ending →
    ending.completed.rq.dir = .read → ending.completed.status = .ok →
    ending.completed.rq.bytes = durableBytes (log.take index) ending.completed.rq.index

theorem DurableLog.concat {log : List Ending} {ending : Ending} (durable : DurableLog log)
    (reads : ending.completed.rq.dir = .read → ending.completed.status = .ok →
      ending.completed.rq.bytes = durableBytes log ending.completed.rq.index) :
    DurableLog (log ++ [ending]) := by
  intro index found listed isRead succeeded
  rcases Log.old_or_new listed with old | ⟨rfl, rfl⟩
  · rw [List.take_append_of_le_length (Log.index_lt old).le]
    exact durable index found old isRead succeeded
  · rw [List.take_left]
    exact reads isRead succeeded

/-- A successful store of the page. -/
def Execution.stores (page : UInt64) (execution : Execution) : Bool :=
  execution.request.op = .store ∧ execution.result = 0 ∧ execution.request.offset = page

/-- The page which a correct map holds after the executions. -/
def storedPage (executed : List Execution) (page : UInt64) : Option PageBuffer :=
  (Log.last? (Execution.stores page) executed).bind Execution.given

theorem storedPage_concat (executed : List Execution) (execution : Execution) (page : UInt64) :
    storedPage (executed ++ [execution]) page =
      if Execution.stores page execution then execution.given else storedPage executed page := by
  unfold storedPage
  rw [Log.last?_concat]
  split <;> rfl

/-- The harvester ends a successful WRITE exactly for a successful store, of the same page. -/
theorem EndedWith.writes_eq {submission : Submission} {execution : Execution} {ending : Ending}
    (executedFor : ExecutedFor submission execution)
    (endedWith : EndedWith submission execution ending) (page : UInt64) :
    ending.writes page = Execution.stores page execution := by
  have sameIndex : ending.completed.rq.index = submission.rq.index := by
    rw [Request.index, endedWith.pos, Request.index]
  unfold Ending.writes Execution.stores
  rw [endedWith.dir, endedWith.status, sameIndex, executedFor.request]
  cases direction : submission.rq.dir with
  | read => simp [Submission.ring, Request.toRing, direction]
  | write => simp [Submission.ring, Request.toRing, direction]

theorem EndedWith.bytes_of_writes {submission : Submission} {execution : Execution}
    {ending : Ending} (executedFor : ExecutedFor submission execution)
    (endedWith : EndedWith submission execution ending) {page : UInt64}
    (writes : ending.writes page = true) :
    some ending.completed.rq.bytes = execution.given.map Vector.toList := by
  unfold Ending.writes at writes
  rw [decide_eq_true_eq] at writes
  have direction : submission.rq.dir = .write := endedWith.dir.symm.trans writes.1
  rcases executedFor.given direction with ⟨data, given, bytes⟩
  rw [given, endedWith.written direction, Option.map_some, bytes]

section PageMaps

variable {Env : Type u} {Engine : Type v} {model : EngineModel Env Engine}

theorem contents_of_executes (map : PageMap model) {engine next : Engine}
    {execution : Execution} (executes : Executes model engine execution next) (page : UInt64) :
    map.contents next page =
      if Execution.stores page execution then execution.given else map.contents engine page := by
  cases executes with
  | @stored request _ _ _ env isStore call =>
      rw [map.stored call]
      by_cases same : request.offset = page
      · subst same
        simp [Execution.stores, isStore]
      · have other : page ≠ request.offset := fun equal => same equal.symm
        simp [Execution.stores, isStore, same, Function.update_of_ne other]
  | storeFailed env isStore call => simp [Execution.stores, map.notStored call]
  | loaded env isLoad call => simp [Execution.stores, isLoad, (map.loaded call).2]
  | loadFailed env isLoad call => simp [Execution.stores, map.notLoaded call]
  | unknown notStore => simp [Execution.stores]

theorem contents_of_returned (map : PageMap model) {engine next : Engine}
    {execution : Execution} (executes : Executes model engine execution next)
    {page : PageBuffer} (returned : execution.returned = some page) :
    map.contents engine execution.request.offset = some page := by
  cases executes with
  | stored => simp at returned
  | storeFailed => simp at returned
  | loaded env _ call =>
      rw [(map.loaded call).1]
      exact returned
  | loadFailed => simp at returned
  | unknown => simp at returned

/-- Along a trace of a correct map which starts out empty, the map holds the page stored
last and every load returned it. -/
theorem Trace.contents {map : PageMap model} {initial engine : Engine}
    {executed : List Execution} (trace : Trace model initial executed engine)
    (empty : ∀ page, map.contents initial page = none) :
    (∀ page, map.contents engine page = storedPage executed page) ∧
      ∀ (index : ℕ) (execution : Execution) (page : PageBuffer),
        executed[index]? = some execution → execution.returned = some page →
        storedPage (executed.take index) execution.request.offset = some page := by
  induction trace with
  | nil => exact ⟨fun page => empty page, by simp⟩
  | snoc earlier executes ih =>
      rcases ih with ⟨contents, loads⟩
      constructor
      · intro page
        rw [contents_of_executes map executes, storedPage_concat, contents]
      · intro index execution page listed returned
        rcases Log.old_or_new listed with old | ⟨rfl, rfl⟩
        · rw [List.take_append_of_le_length (Log.index_lt old).le]
          exact loads index execution page old returned
        · rw [List.take_left, ← contents]
          exact contents_of_returned map executes returned

end PageMaps

namespace World

variable {Env : Type u} {Engine : Type v}

/-- The requests ended on the xarray path. -/
def localEndings (world : World Engine) : List Ending :=
  world.ended.filter fun ending => ending.path = .xarray

theorem localEndings_answered (world : World Engine) (tag slot : ℕ) (completed : Completed) :
    (world.answered tag slot completed).localEndings = world.localEndings := by
  simp [localEndings, answered]

theorem localEndings_endedLocally (world : World Engine) (tag : ℕ) (completed : Completed)
    (store : XArray) :
    (world.endedLocally tag completed store).localEndings =
      world.localEndings ++ [⟨.xarray, tag, completed⟩] := by
  simp [localEndings, endedLocally]

/-- Requests are whole pages, none times out, a page which the xarray path allocates is
inserted, and a page is read from the store which took its last successful write. -/
def SameStore (world : World Engine) : Action Env → Prop
  | .queueRq _ rq fate =>
      rq.WholePage ∧ (world.dev.ring.daemonConnected = false →
        match rq.dir with
        | .read => ∀ write ∈ lastWrite world.ended rq.index, write.path = .xarray
        | .write => world.dev.pageStore rq.index = none → (fate 0).page.isSome →
            (fate 0).inserted = true)
  | .harvest =>
      ∀ submission ∈ world.submitted[world.consumed]?,
        ∀ execution ∈ world.executed[world.consumed]?,
          submission.rq.dir = .read → execution.result = 0 →
            ∀ write ∈ lastWrite world.ended submission.rq.index, write.path = .ring
  | .timeout _ => False
  | _ => True

/-- The invariant behind durability: each store holds what was last written to it. -/
structure Durable (model : EngineModel Env Engine) (initial : Engine) (world : World Engine) :
    Prop where
  staged : world.Staged model initial
  log : DurableLog world.ended
  delivered : ∀ page, (lastWrite world.harvests page).map (·.completed.rq.bytes) =
    (storedPage (world.executed.take world.consumed) page).map Vector.toList
  kept : ∀ page, (world.dev.pageStore page).map (·.read 0 PAGE_SIZE) =
    (lastWrite world.localEndings page).map (·.completed.rq.bytes)

theorem durable_start (model : EngineModel Env Engine) {ringEntries : ℕ} {dev : DuvmDevice}
    (initialised : duvmInit ringEntries = .ok dev) (engine : Engine) :
    (start dev engine).Durable model engine where
  staged := staged_start model initialised engine
  log := by simp [DurableLog, start]
  delivered := fun page => rfl
  kept := by
    intro page
    rcases duvmInit_eq_ok initialised with ⟨_, rfl⟩
    rfl

variable {world : World Engine} {rq : Request} {initial : Engine} {model : EngineModel Env Engine}

/-- A page written to the daemon last reads as the daemon holds it. -/
theorem durableBytes_of_ring {page : UInt64} {bytes : List UInt8}
    (sameStore : ∀ write ∈ lastWrite world.ended page, write.path = .ring)
    (held : (lastWrite world.harvests page).map (·.completed.rq.bytes) = some bytes) :
    durableBytes world.ended page = bytes := by
  unfold durableBytes
  cases isLast : lastWrite world.ended page with
  | none =>
      have none_here : lastWrite world.harvests page = none := Log.last?_filter_of_none isLast
      simp [none_here] at held
  | some write =>
      have onRing : write.path = .ring := sameStore write isLast
      have here : lastWrite world.harvests page = some write :=
        Log.last?_filter_of_some isLast (by simp [onRing])
      simpa [here] using held

/-- A page written to the xarray last reads as the xarray holds it. -/
theorem durableBytes_of_xarray {page : UInt64}
    (sameStore : ∀ write ∈ lastWrite world.ended page, write.path = .xarray) :
    durableBytes world.ended page =
      ((lastWrite world.localEndings page).map (·.completed.rq.bytes)).getD
        (List.replicate PAGE_SIZE 0) := by
  unfold durableBytes
  cases isLast : lastWrite world.ended page with
  | none =>
      have none_here : lastWrite world.localEndings page = none :=
        Log.last?_filter_of_none isLast
      simp [none_here]
  | some write =>
      have onXarray : write.path = .xarray := sameStore write isLast
      have here : lastWrite world.localEndings page = some write :=
        Log.last?_filter_of_some isLast (by simp [onXarray])
      simp [here]

/-- What a READ of one page takes from the xarray. -/
theorem bytes_xarrayRead (whole : rq.WholePage) (store : XArray) :
    (Request.mk rq.pos rq.dir (xarrayRead store rq.pos rq.segments)).bytes =
      ((store rq.index).map (·.read 0 PAGE_SIZE)).getD (List.replicate PAGE_SIZE 0) := by
  rcases whole with ⟨_, data, segments, isPage⟩
  simp only [Request.bytes, segments, xarrayRead, isPage, Request.index]
  cases store (pageIndex rq.pos) with
  | none => simp
  | some stored => simp

/-- What a WRITE of one page leaves in the xarray, if it succeeds and is inserted. -/
theorem xarrayWrite_page (whole : rq.WholePage) {store after : XArray} {fate : ℕ → MemoryFate}
    {allocated : Bool}
    (inserts : store rq.index = none → (fate 0).page.isSome → (fate 0).inserted = true)
    (stored : xarrayWrite fate store 0 rq.pos rq.segments = (allocated, after)) (page : UInt64) :
    (after page).map (·.read 0 PAGE_SIZE) =
      if allocated ∧ rq.index = page then some rq.bytes
      else (store page).map (·.read 0 PAGE_SIZE) := by
  rcases whole with ⟨_, data, segments, isPage⟩
  have bytes_eq : rq.bytes = data := by simp [Request.bytes, segments]
  have written : ∀ memory : ByteMemory,
      ((update store rq.index (some (memory.write (0 % PAGE_SIZE) data))) page).map
          (·.read 0 PAGE_SIZE) =
        if rq.index = page then some rq.bytes else (store page).map (·.read 0 PAGE_SIZE) := by
    intro memory
    by_cases same : rq.index = page
    · subst same
      have back := memory.read_write_self 0 data
      rw [isPage] at back
      simp [bytes_eq, back]
    · have other : page ≠ rq.index := fun equal => same equal.symm
      simp [Function.update_of_ne other, same]
  simp only [segments, xarrayWrite] at stored
  cases present : store (pageIndex rq.pos) with
  | some memory =>
      rw [present] at stored
      simp only [Prod.mk.injEq] at stored
      rcases stored with ⟨rfl, rfl⟩
      exact (written memory).trans (if_congr (by simp) rfl rfl)
  | none =>
      rw [present] at stored
      cases fresh : (fate 0).page with
      | none =>
          rw [fresh] at stored
          simp only [Prod.mk.injEq] at stored
          rcases stored with ⟨rfl, rfl⟩
          simp
      | some memory =>
          have inserted := inserts present (by simp [fresh])
          simp only [fresh, inserted, if_true, Prod.mk.injEq] at stored
          rcases stored with ⟨rfl, rfl⟩
          exact (written memory).trans (if_congr (by simp) rfl rfl)

theorem SameStore.pagesOnly {action : Action Env} (same : world.SameStore action) :
    PagesOnly action := by
  cases action with
  | queueRq tag rq fate => exact same.1.singlePage
  | timeout tag => exact same
  | pollOnce env => trivial
  | harvest => trivial
  | ctlOpen threadStarts => trivial
  | ctlRelease => trivial

/-- A successful WRITE on the xarray path reaches the xarray. -/
theorem Durable.written (durable : world.Durable model initial) {tag : ℕ} {fate : ℕ → MemoryFate}
    {allocated : Bool} {store : XArray} (whole : rq.WholePage) (direction : rq.dir = .write)
    (inserts : world.dev.pageStore rq.index = none → (fate 0).page.isSome →
      (fate 0).inserted = true)
    (stored : xarrayWrite fate world.dev.pageStore 0 rq.pos rq.segments = (allocated, store))
    (staged : (world.endedLocally tag
      ⟨rq, if allocated then .ok else .resource⟩ store).Staged model initial) :
    (world.endedLocally tag ⟨rq, if allocated then .ok else .resource⟩ store).Durable model
      initial := by
  refine { staged := staged, log := ?_, delivered := ?_, kept := ?_ }
  · apply durable.log.concat
    intro isRead
    simp [direction] at isRead
  · intro page
    rw [harvests_endedLocally]
    exact durable.delivered page
  · intro page
    have after := xarrayWrite_page whole inserts stored page
    have writes_iff : Ending.writes page
        ⟨.xarray, tag, ⟨rq, if allocated then .ok else .resource⟩⟩ = true ↔
          allocated ∧ rq.index = page := by
      cases allocated <;> simp [Ending.writes, direction]
    rw [localEndings_endedLocally, lastWrite_concat, if_congr writes_iff rfl rfl]
    change (store page).map (·.read 0 PAGE_SIZE) = _
    rw [after, durable.kept page]
    split <;> rfl

/-- A READ on the xarray path returns what the xarray holds. -/
theorem Durable.read (durable : world.Durable model initial) {tag : ℕ} (whole : rq.WholePage)
    (direction : rq.dir = .read)
    (sameStore : ∀ write ∈ lastWrite world.ended rq.index, write.path = .xarray)
    (staged : (world.endedLocally tag
      ⟨{ rq with segments := xarrayRead world.dev.pageStore rq.pos rq.segments }, .ok⟩
      world.dev.pageStore).Staged model initial) :
    (world.endedLocally tag
      ⟨{ rq with segments := xarrayRead world.dev.pageStore rq.pos rq.segments }, .ok⟩
      world.dev.pageStore).Durable model initial := by
  refine { staged := staged, log := ?_, delivered := ?_, kept := ?_ }
  · apply durable.log.concat
    intro _ _
    have bytes := bytes_xarrayRead whole world.dev.pageStore
    rw [durable.kept rq.index] at bytes
    exact bytes.trans (durableBytes_of_xarray sameStore).symm
  · intro page
    rw [harvests_endedLocally]
    exact durable.delivered page
  · intro page
    rw [localEndings_endedLocally, lastWrite_concat, if_neg (by simp [Ending.writes, direction])]
    exact durable.kept page

/-- A harvested request: a READ returns what the daemon's map held, a WRITE is now the last
one delivered. -/
theorem Durable.harvest (map : PageMap model) (empty : ∀ page, map.contents initial page = none)
    (durable : world.Durable model initial) {submission : Submission} {execution : Execution}
    (listed : world.submitted[world.consumed]? = some submission)
    (published : world.executed[world.consumed]? = some execution)
    (sameStore : submission.rq.dir = .read → execution.result = 0 →
      ∀ write ∈ lastWrite world.ended submission.rq.index, write.path = .ring)
    (staged : (world.answered submission.tag submission.slot
      (world.answer submission.rq submission.entry.cmd execution.result)).Staged model
        initial) :
    (world.answered submission.tag submission.slot
      (world.answer submission.rq submission.entry.cmd execution.result)).Durable model
        initial := by
  have endedWith := durable.staged.endedWith listed published
  have executedFor := durable.staged.executions _ submission execution listed published
  have sameIndex : (world.answer submission.rq submission.entry.cmd execution.result).rq.index =
      submission.rq.index := by
    have samePos := endedWith.pos
    simp only at samePos
    simp only [Request.index, samePos]
  have sameDir := endedWith.dir
  simp only at sameDir
  refine { staged := staged, log := ?_, delivered := ?_, kept := ?_ }
  · apply durable.log.concat
    intro isRead succeeded
    have direction : submission.rq.dir = .read := sameDir.symm.trans isRead
    have result : execution.result = 0 := by
      have status := endedWith.status
      by_contra failed
      rw [if_neg failed] at status
      rw [status] at succeeded
      simp at succeeded
    rcases endedWith.read direction result with ⟨page, returned, bytes⟩
    have held := (durable.staged.trace.contents empty).2 _ execution page published returned
    have delivered := durable.delivered execution.request.offset
    rw [held, executedFor.request] at delivered
    have durableIs := durableBytes_of_ring (sameStore direction result) delivered
    change _ = durableBytes world.ended _
    rw [sameIndex, durableIs]
    exact bytes
  · intro page
    have before := durable.delivered page
    have inside := Log.index_lt published
    have taken : world.executed.take (world.consumed + 1) =
        world.executed.take world.consumed ++ [execution] := by
      rw [List.take_add_one, published]
      rfl
    rw [harvests_answered, lastWrite_concat]
    change _ = (storedPage (world.executed.take (world.consumed + 1)) page).map Vector.toList
    rw [taken, storedPage_concat, ← EndedWith.writes_eq executedFor endedWith page]
    split
    · next writes => exact EndedWith.bytes_of_writes executedFor endedWith writes
    · exact before
  · intro page
    rw [localEndings_answered]
    exact durable.kept page

theorem Durable.stepped (map : PageMap model) (empty : ∀ page, map.contents initial page = none)
    {world next : World Engine} {action : Action Env} (durable : world.Durable model initial)
    (same : world.SameStore action) (stepped : Stepped model world action next) :
    next.Durable model initial := by
  have staged := durable.staged.stepped same.pagesOnly stepped
  cases stepped with
  | unchanged => exact durable
  | refused => exact { durable with staged := staged }
  | accepted submission => exact { durable with staged := staged }
  | written offline _ direction stored =>
      have inserts := same.2 offline
      rw [direction] at inserts
      exact durable.written same.1 direction inserts stored staged
  | read offline _ direction =>
      have sameStore := same.2 offline
      rw [direction] at sameStore
      exact durable.read same.1 direction sameStore staged
  | served execution pending request executes given =>
      refine { durable with staged := staged, delivered := ?_ }
      intro page
      have behind := durable.staged.owned.coherent.rings.consumedLe
      have taken : (world.executed ++ [execution]).take world.consumed =
          world.executed.take world.consumed := List.take_append_of_le_length behind
      change _ = (storedPage ((world.executed ++ [execution]).take world.consumed) page).map _
      rw [taken]
      exact durable.delivered page
  | skipped pending unknown =>
      exact (durable.staged.owned.coherent.not_skipped pending unknown).elim
  | answered pending seq listed =>
      rcases durable.staged.owned.coherent.answered_oldest pending seq listed with
        ⟨submission, execution, found, published, _, _, rfl, rfl, cmd, result⟩
      rw [cmd, result] at staged ⊢
      exact durable.harvest map empty found published
        (same submission found execution published) staged
  | timedOut => exact same.elim
  | opened => exact { durable with staged := staged }
  | released => exact { durable with staged := staged }

/-- Every successful READ returns the data of the most recent successful WRITE of its page,
in every run which reads each page from the store that took that WRITE. -/
theorem durable_of_sameStore (model : EngineModel Env Engine) (map : PageMap model)
    (ringEntries : ℕ) {dev : DuvmDevice} (initialised : duvmInit ringEntries = .ok dev)
    (engine : Engine) (empty : ∀ page, map.contents engine page = none)
    (actions : List (Action Env))
    (same : Transition.Along (step model) SameStore (start dev engine) actions) :
    Transition.Throughout (step model) (fun world => DurableLog world.ended)
      (start dev engine) actions := by
  have durable : Transition.Throughout (step model) (Durable model engine) (start dev engine)
      actions := by
    refine Transition.throughout_of_along (durable_start model initialised engine) ?_ same
    intro world action next durable good stepped
    exact durable.stepped map empty good (stepped_of_step stepped)
  intro before reached isPrefix led
  exact (durable before reached isPrefix led).log

/-- A page is written and read back, without a daemon and then with one. -/
def bothPaths : List (Action Bool) :=
  [.queueRq 0 (Request.ofPage 3 .write (.filled 1)) fun _ => ⟨some fun _ => 0, true⟩,
    .queueRq 0 (Request.ofPage 3 .read .zero) noMemory, .ctlOpen true,
    .queueRq 0 (Request.ofPage 3 .write (.filled 2)) noMemory, .pollOnce true, .harvest,
    .queueRq 0 (Request.ofPage 3 .read .zero) noMemory, .pollOnce true, .harvest]

theorem bothPaths_durable :
    ∃ dev final, duvmInit 2 = .ok dev ∧
      Transition.run (step plainModel) (start dev fun _ => none) bothPaths = some final ∧
      (final.ended.map fun ending => ending.completed.status) = [.ok, .ok, .ok, .ok] ∧
      Transition.Throughout (step plainModel) (fun world => DurableLog world.ended)
        (start dev fun _ => none) bothPaths := by
  refine ⟨_, _, rfl, rfl, rfl,
    durable_of_sameStore plainModel plainMap 2 rfl _ (fun _ => rfl) bothPaths ?_⟩
  refine ⟨⟨Request.wholePage_ofPage _ _ _, fun _ _ _ => rfl⟩, fun written ran => ?_⟩
  rcases Option.some.inj ran with rfl
  refine ⟨⟨Request.wholePage_ofPage _ _ _, fun _ write isLast => ?_⟩, fun read ran => ?_⟩
  · rcases Option.some.inj isLast with rfl
    rfl
  rcases Option.some.inj ran with rfl
  refine ⟨trivial, fun opened ran => ?_⟩
  rcases Option.some.inj ran with rfl
  refine ⟨⟨Request.wholePage_ofPage _ _ _, nofun⟩, fun queued ran => ?_⟩
  rcases Option.some.inj ran with rfl
  refine ⟨trivial, fun polled ran => ?_⟩
  rcases Option.some.inj ran with rfl
  refine ⟨fun submission isOldest execution _ isRead => ?_, fun harvested ran => ?_⟩
  · rcases Option.some.inj isOldest with rfl
    cases isRead
  rcases Option.some.inj ran with rfl
  refine ⟨⟨Request.wholePage_ofPage _ _ _, nofun⟩, fun queued ran => ?_⟩
  rcases Option.some.inj ran with rfl
  refine ⟨trivial, fun polled ran => ?_⟩
  rcases Option.some.inj ran with rfl
  refine ⟨fun submission isOldest execution _ _ _ write isLast => ?_, fun _ _ => trivial⟩
  rcases Option.some.inj isOldest with rfl
  rcases Option.some.inj isLast with rfl
  rfl

/-- A page is written through a daemon and read after the daemon has gone. -/
def writeDisconnectRead : List (Action Bool) :=
  [.ctlOpen true, .queueRq 0 (Request.ofPage 3 .write (.filled 1)) noMemory, .pollOnce true,
    .harvest, .ctlRelease, .queueRq 0 (Request.ofPage 3 .read (.filled 9)) noMemory]

/-- The write succeeded, the read succeeds, and it returns zeros. -/
theorem zeros_read_after_disconnect :
    ∃ dev final, duvmInit 2 = .ok dev ∧
      Transition.run (step plainModel) (start dev fun _ => none) writeDisconnectRead =
        some final ∧
      final.ended = [⟨.ring, 0, ⟨Request.ofPage 3 .write (.filled 1), .ok⟩⟩,
        ⟨.xarray, 0, ⟨Request.ofPage 3 .read .zero, .ok⟩⟩] ∧
      ¬ DurableLog final.ended := by
  have zeros : List.replicate (PageBuffer.filled 9).toList.length 0 =
      PageBuffer.zero.toList := by
    simp [PageBuffer.zero, PageBuffer.filled]
  have ends : ∀ log : List Ending,
      log = [⟨.ring, 0, ⟨Request.ofPage 3 .write (.filled 1), .ok⟩⟩,
        ⟨.xarray, 0, ⟨⟨3 * 8, .read,
          [⟨0, List.replicate (PageBuffer.filled 9).toList.length 0⟩]⟩, .ok⟩⟩] →
      log = [⟨.ring, 0, ⟨Request.ofPage 3 .write (.filled 1), .ok⟩⟩,
        ⟨.xarray, 0, ⟨Request.ofPage 3 .read .zero, .ok⟩⟩] ∧ ¬ DurableLog log := by
    rintro log rfl
    rw [zeros]
    refine ⟨rfl, fun durable => ?_⟩
    have same : (Request.ofPage 3 .read .zero).bytes =
        (Request.ofPage 3 .write (.filled 1)).bytes := durable 1 _ rfl rfl rfl
    rw [Request.bytes_ofPage, Request.bytes_ofPage] at same
    exact PageBuffer.filled_ne (by decide) (Vector.toList_inj.mp same)
  exact ⟨_, _, rfl, rfl, ends _ rfl⟩

end World

end Duvm.Kmod
