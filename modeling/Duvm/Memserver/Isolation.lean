import Duvm.Memserver.Clients

/-!
# What a client learns of the others

Two runs of the memory server in which one client makes the same requests, while the other
clients do as they please. The pages of all clients are in one map under offsets which
anyone can name, and there is one limit for all of them. If the others leave the offsets of the
client alone, and its `STORE`s are answered alike, then its `LOAD`s are answered as if the
map were its own.
-/

namespace Duvm.Memserver

open Function (update)

universe u

/-- What the thread of a client does: a request for the page store, or a step of one; `STATUS`;
an opcode which there is not. -/
inductive WireAction where
  | act (action : ClientAction)
  | status
  | unknown (op : UInt8)

/-- The requests which name a page. -/
inductive PageRequest where
  | store (offset : UInt64) (data : PageBuffer)
  | load (offset : UInt64)
  | free (offset : UInt64)
deriving DecidableEq

/-- A request which names a page, once it is served. -/
inductive Served where
  | stored (offset : UInt64) (data : PageBuffer) (accepted : Bool)
  | loaded (offset : UInt64)
  | freed (offset : UInt64)
deriving DecidableEq

namespace WireAction

/-- The request which is made, if the action is one. -/
def request? : WireAction → Option WireAction
  | .act .proceed => none
  | action => some action

def page? : WireAction → Option PageRequest
  | .act (.store offset data) => some (.store offset data)
  | .act (.load offset) => some (.load offset)
  | .act (.free offset) => some (.free offset)
  | .act .alloc | .act .proceed | .status | .unknown _ => none

theorem page?_of_request? (action : WireAction) : action.request?.bind page? = action.page? := by
  cases action with
  | act action =>
      cases action with
      | alloc | store _ _ | load _ | free _ | proceed => rfl
  | status | unknown _ => rfl

end WireAction

namespace Served

def request : Served → PageRequest
  | .stored offset data _ => .store offset data
  | .loaded offset => .load offset
  | .freed offset => .free offset

def accepted? : Served → Option Bool
  | .stored _ _ accepted => some accepted
  | .loaded _ | .freed _ => none

end Served

namespace ClientEvent

variable {Client : Type u} [DecidableEq Client]

/-- The request of the client which was served. -/
def served? (client : Client) : ClientEvent Client → Option Served
  | .stored other offset data accepted =>
      if other = client then some (.stored offset data accepted) else none
  | .loaded other offset _ => if other = client then some (.loaded offset) else none
  | .freed other offset _ => if other = client then some (.freed offset) else none
  | .granted _ _ | .full _ => none

/-- The answer to an `ALLOC` of the client: an offset, or an error. -/
def allocAnswer? (client : Client) : ClientEvent Client → Option (Option UInt64)
  | .granted other offset => if other = client then some (some offset) else none
  | .full other => if other = client then some none else none
  | .stored .. | .loaded .. | .freed .. => none

/-- The answer to a `LOAD` of the client from one of the offsets. -/
def loadAnswer? (client : Client) (offsets : List UInt64) :
    ClientEvent Client → Option (UInt64 × Option PageBuffer)
  | .loaded other offset data =>
      if other = client ∧ offset ∈ offsets then some (offset, data) else none
  | .granted .. | .full _ | .stored .. | .freed .. => none

/-- Another client has stored or freed a page at one of the offsets. -/
def Disturbs (client : Client) (offsets : List UInt64) : ClientEvent Client → Prop
  | .stored other offset _ accepted => other ≠ client ∧ offset ∈ offsets ∧ accepted = true
  | .freed other offset released => other ≠ client ∧ offset ∈ offsets ∧ released = true
  | .granted .. | .full _ | .loaded .. => False

instance (client : Client) (offsets : List UInt64) (event : ClientEvent Client) :
    Decidable (event.Disturbs client offsets) :=
  match event with
  | .stored .. => inferInstanceAs (Decidable (_ ∧ _ ∧ _))
  | .freed .. => inferInstanceAs (Decidable (_ ∧ _ ∧ _))
  | .granted .. | .full _ | .loaded .. => isFalse id

end ClientEvent

section Books

variable {Client : Type u} [DecidableEq Client] (client : Client)

/-- The requests of the client, in order. -/
def requestsOf (actions : List (Client × WireAction)) : List WireAction :=
  actions.filterMap fun action => if action.1 = client then action.2.request? else none

def servedOf (log : List (ClientEvent Client)) : List Served :=
  log.filterMap (ClientEvent.served? client)

def allocAnswers (log : List (ClientEvent Client)) : List (Option UInt64) :=
  log.filterMap (ClientEvent.allocAnswer? client)

/-- The offsets which were allocated to the client. -/
def allocated (log : List (ClientEvent Client)) : List UInt64 :=
  (allocAnswers client log).reduceOption

def storeAnswers (log : List (ClientEvent Client)) : List Bool :=
  (servedOf client log).filterMap Served.accepted?

def loadAnswers (offsets : List UInt64) (log : List (ClientEvent Client)) :
    List (UInt64 × Option PageBuffer) :=
  log.filterMap (ClientEvent.loadAnswer? client offsets)

end Books

namespace Pool

variable {Client : Type u} [DecidableEq Client]

/-- `STATUS` and an unknown opcode are answered without a change of the pool. -/
def wireStep (pool : Pool Client) : Client × WireAction → Option (Pool Client)
  | (client, .act action) => pool.step (client, action)
  | (client, .status) => if pool.phase client = .idle then some pool else none
  | (client, .unknown _) => if pool.phase client = .idle then some pool else none

/-- In any two runs with the same requests of the client and the same answers to its `ALLOC`s,
its `LOAD`s from offsets allocated to it are answered alike. -/
def Isolated (maxPages : UInt64) (client : Client) : Prop :=
  ∀ (first second : List (Client × WireAction)) (one two : Pool Client),
    Transition.run wireStep (start Client maxPages) first = some one →
    Transition.run wireStep (start Client maxPages) second = some two →
    requestsOf client first = requestsOf client second →
    allocAnswers client one.log = allocAnswers client two.log →
    loadAnswers client (allocated client one.log) one.log =
      loadAnswers client (allocated client two.log) two.log

end Pool

/-- A map which a client has for itself, and the answers to its `LOAD`s from some offsets. -/
structure Private where
  pages : UInt64 → Option PageBuffer
  answers : List (UInt64 × Option PageBuffer)

/-- A request is served from the private map; whether a page is accepted is given. -/
def Private.serve (offsets : List UInt64) (state : Private) : Served → Private
  | .stored offset data true => { state with pages := update state.pages offset (some data) }
  | .stored _ _ false => state
  | .loaded offset =>
      if offset ∈ offsets then
        { state with answers := state.answers ++ [(offset, state.pages offset)] }
      else state
  | .freed offset => { state with pages := update state.pages offset none }

theorem Private.pages_stored (offsets : List UInt64) (state : Private) (offset other : UInt64)
    (data : PageBuffer) (accepted : Bool) :
    (state.serve offsets (.stored offset data accepted)).pages other =
      if accepted = true ∧ other = offset then some data else state.pages other := by
  cases accepted with
  | false => simp [serve]
  | true => simp [serve, Function.update_apply]

theorem Private.answers_stored (offsets : List UInt64) (state : Private) (offset : UInt64)
    (data : PageBuffer) (accepted : Bool) :
    (state.serve offsets (.stored offset data accepted)).answers = state.answers := by
  cases accepted with
  | false => rfl
  | true => rfl

/-- The requests of a client, served by themselves. -/
def replay (offsets : List UInt64) (served : List Served) : Private :=
  served.foldl (Private.serve offsets) ⟨fun _ => none, []⟩

/-- Requests which were served alike are the same up to their answers. -/
theorem served_eq {left right : List Served}
    (requests : left.map Served.request = right.map Served.request)
    (accepted : left.filterMap Served.accepted? = right.filterMap Served.accepted?) :
    left = right := by
  induction left generalizing right with
  | nil => exact (List.map_eq_nil_iff.mp requests.symm).symm
  | cons first rest ih =>
      cases right with
      | nil => cases requests
      | cons other more =>
          rw [List.map_cons, List.map_cons, List.cons.injEq] at requests
          rcases requests with ⟨sameRequest, later⟩
          cases first with
          | stored offset data isAccepted =>
              cases other with
              | stored otherOffset otherData otherAccepted =>
                  cases sameRequest
                  simp only [List.filterMap_cons, Served.accepted?, List.cons.injEq] at accepted
                  rw [accepted.1, ih later accepted.2]
              | loaded _ | freed _ => cases sameRequest
          | loaded offset =>
              cases other with
              | loaded otherOffset =>
                  cases sameRequest
                  rw [ih later accepted]
              | stored _ _ _ | freed _ => cases sameRequest
          | freed offset =>
              cases other with
              | freed otherOffset =>
                  cases sameRequest
                  rw [ih later accepted]
              | stored _ _ _ | loaded _ => cases sameRequest

/-- A page which is accepted is found at its offset, and nothing else changes. -/
theorem PageStore.load_store (store : PageStore) (offset other : UInt64) (data : PageBuffer) :
    (store.store offset data).2.load other =
      if (store.store offset data).1 = true ∧ other = offset then some data
      else store.load other := by
  unfold PageStore.store
  split
  · simp
  · simp [PageStore.load, HashMap.lookup_insert_eq_ite]

theorem PageStore.load_removePage (store : PageStore) (offset other : UInt64) :
    (store.removePage offset).load other = if other = offset then none else store.load other :=
  HashMap.lookup_erase_eq_ite store.pages offset other

section Runs

variable {Client : Type u} [DecidableEq Client] {client : Client} {offsets : List UInt64}

theorem servedOf_concat (log : List (ClientEvent Client)) (event : ClientEvent Client) :
    servedOf client (log ++ [event]) = servedOf client log ++ (event.served? client).toList := by
  rw [servedOf, List.filterMap_append, servedOf]
  cases isServed : event.served? client with
  | none => simp [isServed]
  | some served => simp [isServed]

theorem loadAnswers_concat (log : List (ClientEvent Client)) (event : ClientEvent Client) :
    loadAnswers client offsets (log ++ [event]) =
      loadAnswers client offsets log ++ (event.loadAnswer? client offsets).toList := by
  rw [loadAnswers, List.filterMap_append, loadAnswers]
  cases isAnswer : event.loadAnswer? client offsets with
  | none => simp [isAnswer]
  | some answer => simp [isAnswer]

theorem replay_concat (served : List Served) (last : Served) :
    replay offsets (served ++ [last]) = (replay offsets served).serve offsets last := by
  rw [replay, List.foldl_append]
  rfl

namespace Pool

/-- No other client has stored or freed a page at the offsets. -/
def Undisturbed (client : Client) (offsets : List UInt64) (pool : Pool Client) : Prop :=
  ∀ event ∈ pool.log, ¬event.Disturbs client offsets

instance (client : Client) (offsets : List UInt64) (pool : Pool Client) :
    Decidable (pool.Undisturbed client offsets) :=
  inferInstanceAs (Decidable (∀ event ∈ pool.log, ¬event.Disturbs client offsets))

/-- The client sees the map which it has for itself. -/
structure SeesOwn (client : Client) (offsets : List UInt64) (pool : Pool Client) : Prop where
  pages : ∀ offset ∈ offsets,
    pool.store.load offset = (replay offsets (servedOf client pool.log)).pages offset
  answers : loadAnswers client offsets pool.log =
    (replay offsets (servedOf client pool.log)).answers

variable {pool next : Pool Client} {event : ClientEvent Client}

/-- An event which is not the client's, and does not touch its pages. -/
theorem SeesOwn.elsewhere (sees : pool.SeesOwn client offsets)
    (logged : next.log = pool.log ++ [event]) (unserved : event.served? client = none)
    (unanswered : event.loadAnswer? client offsets = none)
    (pages : ∀ offset ∈ offsets, next.store.load offset = pool.store.load offset) :
    next.SeesOwn client offsets := by
  have sameServed : servedOf client next.log = servedOf client pool.log := by
    rw [logged, servedOf_concat, unserved, Option.toList_none, List.append_nil]
  refine ⟨?_, ?_⟩
  · intro offset isOwn
    rw [sameServed, pages offset isOwn]
    exact sees.pages offset isOwn
  · rw [sameServed, logged, loadAnswers_concat, unanswered, Option.toList_none, List.append_nil]
    exact sees.answers

/-- A request of the client is served as from its own map. -/
theorem SeesOwn.own {served : Served} (sees : pool.SeesOwn client offsets)
    (logged : next.log = pool.log ++ [event]) (isServed : event.served? client = some served)
    (answered : (replay offsets (servedOf client pool.log)).answers ++
      (event.loadAnswer? client offsets).toList =
        ((replay offsets (servedOf client pool.log)).serve offsets served).answers)
    (pages : ∀ offset ∈ offsets, next.store.load offset =
      ((replay offsets (servedOf client pool.log)).serve offsets served).pages offset) :
    next.SeesOwn client offsets := by
  have nowServed : servedOf client next.log = servedOf client pool.log ++ [served] := by
    rw [logged, servedOf_concat, isServed, Option.toList_some]
  refine ⟨?_, ?_⟩
  · intro offset isOwn
    rw [nowServed, replay_concat]
    exact pages offset isOwn
  · rw [nowServed, replay_concat, logged, loadAnswers_concat, sees.answers]
    exact answered

variable {offset maxPages : UInt64} {other : Client}

theorem SeesOwn.accept (sees : pool.SeesOwn client offsets) {data : PageBuffer}
    (undisturbed : (pool.accept other offset data).Undisturbed client offsets) :
    (pool.accept other offset data).SeesOwn client offsets := by
  by_cases isClient : other = client
  · refine sees.own rfl (if_pos isClient) ?_ ?_
    · rw [Private.answers_stored]
      exact List.append_nil _
    · intro own isOwn
      rw [Private.pages_stored, ← sees.pages own isOwn]
      exact PageStore.load_store pool.store offset own data
  · refine sees.elsewhere rfl (if_neg isClient) rfl ?_
    intro own isOwn
    have last := undisturbed _ (List.mem_append_right pool.log (List.mem_singleton.mpr rfl))
    refine (PageStore.load_store pool.store offset own data).trans (if_neg ?_)
    rintro ⟨isAccepted, rfl⟩
    exact last ⟨isClient, isOwn, isAccepted⟩

theorem SeesOwn.load (sees : pool.SeesOwn client offsets) :
    (pool.record (.loaded other offset (pool.store.load offset))).SeesOwn client offsets := by
  by_cases isClient : other = client
  · by_cases isOwn : offset ∈ offsets
    · refine sees.own rfl (if_pos isClient) ?_ ?_
      · simp [Private.serve, isOwn, ClientEvent.loadAnswer?, isClient, sees.pages offset isOwn]
      · simp only [Private.serve, if_pos isOwn]
        exact sees.pages
    · refine sees.own rfl (if_pos isClient) ?_ ?_
      · simp [Private.serve, isOwn, ClientEvent.loadAnswer?]
      · simp only [Private.serve, if_neg isOwn]
        exact sees.pages
  · refine sees.elsewhere rfl (if_neg isClient) (if_neg fun both => isClient both.1) ?_
    exact fun _ _ => rfl

theorem SeesOwn.remove (sees : pool.SeesOwn client offsets)
    (undisturbed : (pool.remove other offset).Undisturbed client offsets) :
    (pool.remove other offset).SeesOwn client offsets := by
  by_cases isClient : other = client
  · refine sees.own rfl (if_pos isClient) (List.append_nil _) ?_
    intro own isOwn
    simp only [Private.serve, Function.update_apply, ← sees.pages own isOwn]
    exact PageStore.load_removePage pool.store offset own
  · refine sees.elsewhere rfl (if_neg isClient) rfl ?_
    intro own isOwn
    have last := undisturbed _ (List.mem_append_right pool.log (List.mem_singleton.mpr rfl))
    refine (PageStore.load_removePage pool.store offset own).trans (if_neg ?_)
    rintro rfl
    exact last ⟨isClient, isOwn, rfl⟩

theorem SeesOwn.miss (sees : pool.SeesOwn client offsets) (absent : offset ∉ pool.store.pages) :
    (pool.miss other offset).SeesOwn client offsets := by
  by_cases isClient : other = client
  · refine sees.own rfl (if_pos isClient) (List.append_nil _) ?_
    intro own isOwn
    simp only [Private.serve, Function.update_apply, ← sees.pages own isOwn]
    split
    · next same =>
        subst same
        exact AList.lookup_eq_none.mpr absent
    · rfl
  · exact sees.elsewhere rfl (if_neg isClient) rfl fun _ _ => rfl

theorem SeesOwn.stepped {action : Client × ClientAction} (sees : pool.SeesOwn client offsets)
    (undisturbed : next.Undisturbed client offsets) (stepped : Stepped pool action next) :
    next.SeesOwn client offsets := by
  cases stepped with
  | entered _ _ => exact ⟨sees.pages, sees.answers⟩
  | full _ => exact sees.elsewhere rfl rfl rfl fun _ _ => rfl
  | reserved _ => exact ⟨sees.pages, sees.answers⟩
  | granted _ => exact sees.elsewhere rfl rfl rfl fun _ _ => rfl
  | stored => exact sees.accept undisturbed
  | loaded => exact sees.load
  | removed _ _ _ => exact sees.remove undisturbed
  | missed absent => exact sees.miss absent
  | released _ => exact ⟨sees.pages, sees.answers⟩

theorem log_of_stepped {action : Client × ClientAction} (stepped : Stepped pool action next) :
    pool.log <+: next.log := by
  cases stepped with
  | entered _ _ | reserved _ | released _ => exact List.prefix_refl _
  | full _ | granted _ | stored | loaded | removed _ _ _ | missed _ => exact List.prefix_append _ _

theorem SeesOwn.wireStep {action : Client × WireAction}
    (sees : pool.Undisturbed client offsets → pool.SeesOwn client offsets)
    (stepped : pool.wireStep action = some next)
    (undisturbed : next.Undisturbed client offsets) : next.SeesOwn client offsets := by
  rcases action with ⟨other, action⟩
  cases action with
  | act action =>
      have taken := stepped_of_step stepped
      have before : pool.Undisturbed client offsets := fun event listed =>
        undisturbed event ((log_of_stepped taken).subset listed)
      exact (sees before).stepped undisturbed taken
  | status | unknown _ =>
      simp only [Pool.wireStep, Option.ite_none_right_eq_some, Option.some.injEq] at stepped
      rcases stepped with ⟨_, rfl⟩
      exact sees undisturbed

theorem seesOwn_of_run {actions : List (Client × WireAction)}
    (reached : Transition.run Pool.wireStep (start Client maxPages) actions = some pool)
    (undisturbed : pool.Undisturbed client offsets) : pool.SeesOwn client offsets := by
  refine @Transition.run_invariant _ _ Pool.wireStep
    (fun pool => pool.Undisturbed client offsets → pool.SeesOwn client offsets) _ _ _
    ?_ ?_ reached undisturbed
  · intro _
    exact ⟨fun _ _ => rfl, rfl⟩
  · intro current action after sees stepped
    exact SeesOwn.wireStep sees stepped

/-- The request which an event serves is the one of the action. -/
theorem map_request_concat (client other : Client) {action : WireAction}
    (logged : next.log = pool.log ++ [event])
    (isRequest : (event.served? client).map Served.request =
      if other = client then action.page? else none) :
    (servedOf client next.log).map Served.request =
      (servedOf client pool.log).map Served.request ++
        (if other = client then action.page? else none).toList := by
  rw [logged, servedOf_concat, List.map_append, ← isRequest]
  cases event.served? client with
  | none => rfl
  | some served => rfl

omit [DecidableEq Client] in
theorem map_request_if (isOwn : Prop) [Decidable isOwn] (served : Served) :
    (if isOwn then some served else none).map Served.request =
      if isOwn then some served.request else none := by
  split
  · rfl
  · rfl

/-- A step serves the request which it is, and no other. -/
theorem map_request_of_wireStep {action : WireAction}
    (stepped : pool.wireStep (other, action) = some next) :
    (servedOf client next.log).map Served.request =
      (servedOf client pool.log).map Served.request ++
        (if other = client then action.page? else none).toList := by
  have unasked : action.page? = none → next.log = pool.log →
      (servedOf client next.log).map Served.request =
        (servedOf client pool.log).map Served.request ++
          (if other = client then action.page? else none).toList := by
    intro noPage sameLog
    rw [noPage, sameLog, ite_self, Option.toList_none, List.append_nil]
  cases action with
  | act action =>
      simp only [Pool.wireStep] at stepped
      cases action with
      | alloc =>
          simp only [step, Option.ite_none_right_eq_some, Option.some.injEq] at stepped
          rcases stepped with ⟨_, rfl⟩
          exact unasked rfl rfl
      | store offset data =>
          simp only [step, Option.ite_none_right_eq_some, Option.some.injEq] at stepped
          rcases stepped with ⟨_, rfl⟩
          exact map_request_concat client other rfl (map_request_if (other = client) _)
      | load offset =>
          simp only [step, Option.ite_none_right_eq_some, Option.some.injEq] at stepped
          rcases stepped with ⟨_, rfl⟩
          exact map_request_concat client other rfl (map_request_if (other = client) _)
      | free offset =>
          simp only [step, Option.ite_none_right_eq_some] at stepped
          rcases stepped with ⟨_, stepped⟩
          split at stepped
          · cases stepped
            exact map_request_concat client other rfl (map_request_if (other = client) _)
          · cases stepped
            exact map_request_concat client other rfl (map_request_if (other = client) _)
      | proceed =>
          cases stepped_of_proceed stepped with
          | entered _ _ | reserved _ | released _ => exact unasked rfl rfl
          | full _ | granted _ => exact map_request_concat client other rfl (ite_self none).symm
  | status | unknown _ =>
      simp only [Pool.wireStep, Option.ite_none_right_eq_some, Option.some.injEq] at stepped
      rcases stepped with ⟨_, rfl⟩
      exact unasked rfl rfl

/-- The requests which are served are those which the client makes. -/
theorem map_request_of_run {actions : List (Client × WireAction)}
    (reached : Transition.run Pool.wireStep (start Client maxPages) actions = some pool) :
    (servedOf client pool.log).map Served.request =
      (requestsOf client actions).filterMap WireAction.page? := by
  induction actions using List.reverseRecOn generalizing pool with
  | nil =>
      cases reached
      rfl
  | append_singleton actions action ih =>
      rw [Transition.run_concat, Option.bind_eq_some_iff] at reached
      rcases reached with ⟨before, ran, stepped⟩
      rcases action with ⟨other, action⟩
      rw [map_request_of_wireStep stepped, ih ran, requestsOf, requestsOf, List.filterMap_append,
        List.filterMap_append]
      congr 1
      rw [List.filterMap_filterMap]
      by_cases isClient : other = client
      · simp only [isClient, if_true, List.filterMap_cons, List.filterMap_nil,
          WireAction.page?_of_request?]
        cases action.page? with
        | none => rfl
        | some request => rfl
      · simp [isClient]

/-- The `LOAD`s of a client from its offsets are answered alike in two runs in which it makes the
same requests, is given the same offsets and has the same pages accepted, as long as no other
client stores or frees a page at these offsets. -/
theorem loadAnswers_eq {first second : List (Client × WireAction)} {one two : Pool Client}
    (ranFirst : Transition.run Pool.wireStep (start Client maxPages) first = some one)
    (ranSecond : Transition.run Pool.wireStep (start Client maxPages) second = some two)
    (sameRequests : requestsOf client first = requestsOf client second)
    (sameOffsets : allocAnswers client one.log = allocAnswers client two.log)
    (sameAccepted : storeAnswers client one.log = storeAnswers client two.log)
    (undisturbedFirst : one.Undisturbed client (allocated client one.log))
    (undisturbedSecond : two.Undisturbed client (allocated client two.log)) :
    loadAnswers client (allocated client one.log) one.log =
      loadAnswers client (allocated client two.log) two.log := by
  have sameServed : servedOf client one.log = servedOf client two.log := by
    apply served_eq _ sameAccepted
    rw [map_request_of_run ranFirst, map_request_of_run ranSecond, sameRequests]
  have sameAllocated : allocated client one.log = allocated client two.log := by
    rw [allocated, allocated, sameOffsets]
  rw [(seesOwn_of_run ranFirst undisturbedFirst).answers,
    (seesOwn_of_run ranSecond undisturbedSecond).answers, sameServed, sameAllocated]

end Pool

end Runs

namespace Pool

/-- The first client is given an offset. -/
def allocOne : List (Bool × WireAction) :=
  [(false, .act .alloc), (false, .act .proceed), (false, .act .proceed), (false, .act .proceed)]

/-- It stores a page there and loads it. -/
def storeAndLoad : List (Bool × WireAction) :=
  [(false, .act (.store 0 (.filled 1))), (false, .act (.load 0))]

/-- Another client stores a page elsewhere, and the load is answered as without it. -/
theorem load_unaffected :
    ∃ one two, Transition.run wireStep (start Bool 2) (allocOne ++ storeAndLoad) = some one ∧
      Transition.run wireStep (start Bool 2)
        (allocOne ++ (true, .act (.store 1 (.filled 2))) :: storeAndLoad) = some two ∧
      loadAnswers false (allocated false one.log) one.log =
        loadAnswers false (allocated false two.log) two.log := by
  have ran : ∃ one two,
      Transition.run wireStep (start Bool 2) (allocOne ++ storeAndLoad) = some one ∧
      Transition.run wireStep (start Bool 2)
        (allocOne ++ (true, .act (.store 1 (.filled 2))) :: storeAndLoad) = some two ∧
      allocAnswers false one.log = allocAnswers false two.log ∧
      storeAnswers false one.log = storeAnswers false two.log ∧
      one.Undisturbed false (allocated false one.log) ∧
      two.Undisturbed false (allocated false two.log) :=
    ⟨_, _, rfl, rfl, rfl, rfl, by decide, by decide⟩
  rcases ran with ⟨one, two, ranOne, ranTwo, offsets, accepted, quietOne, quietTwo⟩
  exact ⟨one, two, ranOne, ranTwo,
    loadAnswers_eq ranOne ranTwo rfl offsets accepted quietOne quietTwo⟩

/-- Another client stores a page at the offset before the load. -/
def storeIntrudeLoad : List (Bool × WireAction) :=
  [(false, .act (.store 0 (.filled 1))), (true, .act (.store 0 (.filled 2))),
    (false, .act (.load 0))]

/-- The load returns the page of the other client. -/
theorem not_isolated : ¬Isolated 2 false := by
  have ran : ∃ one two,
      Transition.run wireStep (start Bool 2) (allocOne ++ storeAndLoad) = some one ∧
      Transition.run wireStep (start Bool 2) (allocOne ++ storeIntrudeLoad) = some two ∧
      allocAnswers false one.log = allocAnswers false two.log ∧
      loadAnswers false (allocated false one.log) one.log = [(0, some (.filled 1))] ∧
      loadAnswers false (allocated false two.log) two.log = [(0, some (.filled 2))] :=
    ⟨_, _, rfl, rfl, rfl, rfl, rfl⟩
  rcases ran with ⟨one, two, ranOne, ranTwo, offsets, loadsOne, loadsTwo⟩
  intro isolated
  have same := isolated _ _ one two ranOne ranTwo rfl offsets
  rw [loadsOne, loadsTwo] at same
  simp only [List.cons.injEq, Prod.mk.injEq, Option.some.injEq, and_true, true_and] at same
  exact PageBuffer.filled_ne (by decide) same

end Pool

end Duvm.Memserver
