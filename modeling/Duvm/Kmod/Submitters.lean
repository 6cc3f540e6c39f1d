import Duvm.Kmod.Device
import Duvm.Library.Transition
import Mathlib.Data.Fintype.Defs
import Mathlib.Data.List.Infix

/-!
# Several submitters on one request ring

`duvm_ring_submit` step by step, for any number of callers at a time: the test for the
daemon, the read of `req_write_idx`, the test for a full ring, the copy of the entry and the
publication of the new index. The daemon, in `poll_once`, copies the oldest entry and later
advances `req_read_idx`.

The ring has no lock. It keeps every request as long as a caller passes the test for a full
ring only with the index which is in the ring then, and while no other one is between this
test and its return; two callers which pass it with the same index write the same entry.
-/

namespace Duvm.Kmod

open Function (update)

universe u

/-- Where a caller is in `duvm_ring_submit`. -/
inductive Phase where
  | idle
  | entered (req : DuvmRequest)
  | read (req : DuvmRequest) (writeIdx : ℕ)
  | checked (req : DuvmRequest) (writeIdx : ℕ)
  | copied (req : DuvmRequest) (writeIdx : ℕ)
deriving DecidableEq

/-- The caller has found room and not returned yet. -/
def Phase.inside : Phase → Bool
  | .idle | .entered _ | .read _ _ => false
  | .checked _ _ | .copied _ _ => true

/-- The ring with its callers; `fetched` while the daemon has a request and has not advanced
`req_read_idx`. The record is of the requests for which 0 was returned, those which the daemon
copied, and the number of times it advanced. -/
structure Submitters (Caller : Type u) where
  ring : DuvmRing
  phase : Caller → Phase
  fetched : Bool
  accepted : List DuvmRequest
  delivered : List DuvmRequest
  consumed : ℕ

inductive SubmitAction (Caller : Type u) where
  | connect (connected : Bool)
  | submit (caller : Caller) (req : DuvmRequest)
  | proceed (caller : Caller)
  | fetch
  | consume
deriving DecidableEq

namespace Submitters

variable {Caller : Type u}

def start (Caller : Type u) (ring : DuvmRing) : Submitters Caller :=
  ⟨ring, fun _ => .idle, false, [], [], 0⟩

variable [DecidableEq Caller]

def setPhase (state : Submitters Caller) (caller : Caller) (phase : Phase) : Submitters Caller :=
  { state with phase := update state.phase caller phase }

/-- The next step of a caller. -/
def proceed (state : Submitters Caller) (caller : Caller) : Option (Submitters Caller) :=
  match state.phase caller with
  | .idle => none
  | .entered req => some (state.setPhase caller (.read req state.ring.reqWriteIdx))
  | .read req writeIdx =>
      if RingBuffer.advance state.ring.capacity writeIdx = state.ring.reqReadIdx then
        some (state.setPhase caller .idle)
      else some (state.setPhase caller (.checked req writeIdx))
  | .checked req writeIdx =>
      let ring := { state.ring with requests := update state.ring.requests writeIdx req }
      some { state with ring, phase := update state.phase caller (.copied req writeIdx) }
  | .copied req writeIdx =>
      let ring :=
        { state.ring with reqWriteIdx := RingBuffer.advance state.ring.capacity writeIdx }
      some { state with
        ring, phase := update state.phase caller .idle, accepted := state.accepted ++ [req] }

def step (state : Submitters Caller) : SubmitAction Caller → Option (Submitters Caller)
  | .connect connected =>
      some { state with ring := { state.ring with daemonConnected := connected } }
  | .submit caller req =>
      match state.phase caller with
      | .idle =>
          if state.ring.daemonConnected then some (state.setPhase caller (.entered req))
          else some state
      | _ => none
  | .proceed caller => state.proceed caller
  | .fetch =>
      if state.fetched then none
      else if state.ring.reqReadIdx = state.ring.reqWriteIdx then some state
      else
        some { state with
          fetched := true
          delivered := state.delivered ++ [state.ring.requests state.ring.reqReadIdx] }
  | .consume =>
      if state.fetched then
        let ring := { state.ring with
          reqReadIdx := RingBuffer.advance state.ring.capacity state.ring.reqReadIdx }
        some { state with ring, fetched := false, consumed := state.consumed + 1 }
      else none

/-- A caller which is not held up makes the steps of `duvm_ring_submit`. -/
theorem run_submit (state : Submitters Caller) (caller : Caller) (req : DuvmRequest)
    (idle : state.phase caller = .idle) :
    ∃ steps, Transition.run step state
        (.submit caller req :: List.replicate steps (.proceed caller)) =
      some { state with
        ring := (duvmRingSubmit state.ring req).2
        accepted := match (duvmRingSubmit state.ring req).1 with
          | .ok () => state.accepted ++ [req]
          | .error _ => state.accepted } := by
  have back : ∀ phase, update (update state.phase caller phase) caller .idle = state.phase := by
    intro phase
    rw [Function.update_idem, ← idle, Function.update_eq_self]
  cases connected : state.ring.daemonConnected with
  | false =>
      refine ⟨0, ?_⟩
      simp [step, idle, connected, duvmRingSubmit, Transition.run_cons]
  | true =>
      by_cases full : RingBuffer.advance state.ring.capacity state.ring.reqWriteIdx =
          state.ring.reqReadIdx
      · -- The index is read, and the test for a full ring sends the caller back.
        refine ⟨2, ?_⟩
        simp [step, proceed, setPhase, idle, connected, full, duvmRingSubmit,
          List.replicate_succ, Transition.run_cons, back]
      · refine ⟨4, ?_⟩
        simp [step, proceed, setPhase, idle, connected, full, duvmRingSubmit,
          List.replicate_succ, Transition.run_cons, back]

/-- All that a step can do, with the guards under which it does it. -/
inductive Stepped (state : Submitters Caller) : SubmitAction Caller → Submitters Caller → Prop
  | connected {connected : Bool} :
      Stepped state (.connect connected)
        { state with ring := { state.ring with daemonConnected := connected } }
  | turnedAway {caller : Caller} {req : DuvmRequest} : Stepped state (.submit caller req) state
  | entered {caller : Caller} {req : DuvmRequest} :
      Stepped state (.submit caller req) (state.setPhase caller (.entered req))
  | read {caller : Caller} {req : DuvmRequest} (was : state.phase caller = .entered req) :
      Stepped state (.proceed caller)
        (state.setPhase caller (.read req state.ring.reqWriteIdx))
  | full {caller : Caller} : Stepped state (.proceed caller) (state.setPhase caller .idle)
  | checked {caller : Caller} {req : DuvmRequest} {writeIdx : ℕ}
      (was : state.phase caller = .read req writeIdx)
      (notFull : RingBuffer.advance state.ring.capacity writeIdx ≠ state.ring.reqReadIdx) :
      Stepped state (.proceed caller) (state.setPhase caller (.checked req writeIdx))
  | copied {caller : Caller} {req : DuvmRequest} {writeIdx : ℕ}
      (was : state.phase caller = .checked req writeIdx) :
      Stepped state (.proceed caller)
        { state with
          ring := { state.ring with requests := update state.ring.requests writeIdx req }
          phase := update state.phase caller (.copied req writeIdx) }
  | published {caller : Caller} {req : DuvmRequest} {writeIdx : ℕ}
      (was : state.phase caller = .copied req writeIdx) :
      Stepped state (.proceed caller)
        { state with
          ring := { state.ring with
            reqWriteIdx := RingBuffer.advance state.ring.capacity writeIdx }
          phase := update state.phase caller .idle
          accepted := state.accepted ++ [req] }
  | empty : Stepped state .fetch state
  | fetched (unfetched : state.fetched = false)
      (pending : state.ring.reqReadIdx ≠ state.ring.reqWriteIdx) :
      Stepped state .fetch
        { state with
          fetched := true
          delivered := state.delivered ++ [state.ring.requests state.ring.reqReadIdx] }
  | consumed (isFetched : state.fetched = true) :
      Stepped state .consume
        { state with
          ring := { state.ring with
            reqReadIdx := RingBuffer.advance state.ring.capacity state.ring.reqReadIdx }
          fetched := false
          consumed := state.consumed + 1 }

variable {caller : Caller} {state next : Submitters Caller} {action : SubmitAction Caller}
  {phase : Phase}

theorem stepped_of_proceed (stepped : state.proceed caller = some next) :
    Stepped state (.proceed caller) next := by
  unfold proceed at stepped
  split at stepped
  · cases stepped
  · next req was =>
      cases stepped
      exact .read was
  · next req writeIdx was =>
      split at stepped
      · cases stepped
        exact .full
      · next notFull =>
          cases stepped
          exact .checked was notFull
  · next req writeIdx was =>
      cases stepped
      exact .copied was
  · next req writeIdx was =>
      cases stepped
      exact .published was

theorem stepped_of_step (stepped : state.step action = some next) : Stepped state action next := by
  cases action with
  | connect connected =>
      cases stepped
      exact .connected
  | submit caller req =>
      simp only [step] at stepped
      split at stepped
      · split at stepped
        · cases stepped
          exact .entered
        · cases stepped
          exact .turnedAway
      · cases stepped
  | proceed caller => exact stepped_of_proceed stepped
  | fetch =>
      simp only [step] at stepped
      split at stepped
      · cases stepped
      · next unfetched =>
          split at stepped
          · cases stepped
            exact .empty
          · next pending =>
              cases stepped
              exact .fetched (Bool.eq_false_of_not_eq_true unfetched) pending
  | consume =>
      simp only [step] at stepped
      split at stepped
      · next isFetched =>
          cases stepped
          exact .consumed isFetched
      · cases stepped

/-- The next step of the caller is the test for a full ring, and it finds room. -/
def findsRoom (state : Submitters Caller) (caller : Caller) : Bool :=
  match state.phase caller with
  | .read _ writeIdx => RingBuffer.advance state.ring.capacity writeIdx ≠ state.ring.reqReadIdx
  | .idle | .entered _ | .checked _ _ | .copied _ _ => false

/-- The index which the caller has read is the one in the ring. -/
def isCurrent (state : Submitters Caller) (caller : Caller) : Bool :=
  match state.phase caller with
  | .read _ writeIdx => writeIdx = state.ring.reqWriteIdx
  | .idle | .entered _ | .checked _ _ | .copied _ _ => true

/-- A caller finds room only with the index which is in the ring, and while no other one has found
room and not returned. Callers which find the ring full may overlap. -/
def Exclusive (state : Submitters Caller) : SubmitAction Caller → Prop
  | .proceed caller => state.findsRoom caller = true →
      state.isCurrent caller = true ∧ ∀ other, (state.phase other).inside = false
  | _ => True

instance [Fintype Caller] (state : Submitters Caller) (action : SubmitAction Caller) :
    Decidable (state.Exclusive action) :=
  match action with
  | .proceed caller => inferInstanceAs (Decidable (state.findsRoom caller = true →
      state.isCurrent caller = true ∧ ∀ other, (state.phase other).inside = false))
  | .connect _ | .submit _ _ | .fetch | .consume => isTrue trivial

/-- What holds of the ring where a caller is. -/
def Reached (state : Submitters Caller) : Phase → Prop
  | .idle | .entered _ | .read _ _ => True
  | .checked _ writeIdx => writeIdx = state.ring.reqWriteIdx ∧
      state.accepted.length + 1 < state.consumed + state.ring.capacity
  | .copied req writeIdx => writeIdx = state.ring.reqWriteIdx ∧
      state.accepted.length + 1 < state.consumed + state.ring.capacity ∧
      state.ring.requests writeIdx = req

/-- At most one caller is inside, and the ring is as it needs it. -/
structure Turns (state : Submitters Caller) : Prop where
  alone : ∀ left right, (state.phase left).inside = true → (state.phase right).inside = true →
    left = right
  reached : ∀ caller, state.Reached (state.phase caller)

/-- The ring holds the accepted requests which the daemon has not consumed. -/
structure Queued (state : Submitters Caller) : Prop where
  ring : RingBuffer.Agrees state.ring.requests state.ring.capacity state.ring.reqReadIdx
    state.ring.reqWriteIdx state.consumed state.accepted
  close : state.accepted.length < state.consumed + state.ring.capacity
  inOrder : state.delivered <+: state.accepted
  ahead : state.delivered.length = state.consumed + if state.fetched then 1 else 0

structure Sound (state : Submitters Caller) : Prop where
  queued : state.Queued
  turns : state.Turns

omit [DecidableEq Caller] in
theorem reached_of_outside (state : Submitters Caller) (outside : phase.inside = false) :
    state.Reached phase := by
  cases phase with
  | idle | entered _ | read _ _ => trivial
  | checked _ _ | copied _ _ => cases outside

/-- A caller moves on; what the others need of the ring is kept. -/
theorem Turns.move (turns : state.Turns) (moved : next.phase = update state.phase caller phase)
    (own : next.Reached phase)
    (solo : phase.inside = true → ∀ other, other ≠ caller → (state.phase other).inside = false)
    (kept : ∀ other, other ≠ caller → next.Reached (state.phase other)) : next.Turns := by
  refine ⟨?_, ?_⟩
  · intro left right isLeft isRight
    rw [moved] at isLeft isRight
    by_cases leftMoved : left = caller
    · by_cases rightMoved : right = caller
      · rw [leftMoved, rightMoved]
      · rw [leftMoved, Function.update_self] at isLeft
        rw [Function.update_of_ne rightMoved] at isRight
        cases (solo isLeft right rightMoved).symm.trans isRight
    · rw [Function.update_of_ne leftMoved] at isLeft
      by_cases rightMoved : right = caller
      · rw [rightMoved, Function.update_self] at isRight
        cases (solo isRight left leftMoved).symm.trans isLeft
      · rw [Function.update_of_ne rightMoved] at isRight
        exact turns.alone left right isLeft isRight
  · intro other
    rw [moved]
    by_cases same : other = caller
    · rw [same, Function.update_self]
      exact own
    · rw [Function.update_of_ne same]
      exact kept other same

omit [DecidableEq Caller] in
theorem inside_of_phase (was : state.phase caller = phase) (isInside : phase.inside = true) :
    (state.phase caller).inside = true := by
  rw [was]
  exact isInside

omit [DecidableEq Caller] in
/-- While a caller is inside, the others are not. -/
theorem Turns.others_outside (turns : state.Turns) (isInside : (state.phase caller).inside = true)
    (other : Caller) (distinct : other ≠ caller) :
    (state.phase other).inside = false := by
  cases outside : (state.phase other).inside with
  | false => rfl
  | true => exact absurd (turns.alone other caller outside isInside) distinct

omit [DecidableEq Caller] in
theorem sound_start {ringEntries : ℕ} {dev : DuvmDevice}
    (initialised : duvmInit ringEntries = .ok dev) : (start Caller dev.ring).Sound := by
  rcases duvmInit_eq_ok initialised with ⟨⟨order, isPower⟩, rfl⟩
  refine ⟨⟨⟨⟨order, isPower⟩, le_rfl, ?_, ?_, RingBuffer.window_nil⟩, ?_, ?_, rfl⟩, ⟨?_, ?_⟩⟩
  · exact (Nat.zero_mod _).symm
  · exact (Nat.zero_mod _).symm
  · change 0 < 0 + ringEntries
    rw [Nat.zero_add, isPower]
    exact Nat.two_pow_pos order
  · exact List.prefix_refl []
  · intro left right isInside
    cases isInside
  · intro caller
    trivial

theorem Queued.setPhase (queued : state.Queued) (caller : Caller) (phase : Phase) :
    (state.setPhase caller phase).Queued :=
  ⟨queued.ring, queued.close, queued.inOrder, queued.ahead⟩

/-- Only a copy, a publication and the daemon's two steps matter to the queue; the first two
are at the index which the caller has read. -/
theorem Queued.step (queued : state.Queued) (turns : state.Turns)
    (stepped : Stepped state action next) :
    next.Queued := by
  cases stepped with
  | connected => exact ⟨queued.ring, queued.close, queued.inOrder, queued.ahead⟩
  | turnedAway | empty => exact queued
  | entered | read _ | full | checked _ _ => exact queued.setPhase _ _
  | @copied caller req writeIdx was =>
      have reached := turns.reached caller
      rw [was] at reached
      rcases reached with ⟨isIdx, _⟩
      refine ⟨?_, queued.close, queued.inOrder, queued.ahead⟩
      simp only [isIdx]
      exact queued.ring.write queued.close req
  | @published caller req writeIdx was =>
      have reached := turns.reached caller
      rw [was] at reached
      rcases reached with ⟨isIdx, room, isEntry⟩
      refine ⟨?_, ?_, queued.inOrder.trans (List.prefix_append _ _), queued.ahead⟩
      · simp only [isIdx] at isEntry ⊢
        exact queued.ring.publish isEntry
      · simp only [List.length_append, List.length_singleton]
        exact room
  | fetched unfetched pending =>
      have ahead := queued.ahead
      rw [unfetched, if_neg Bool.false_ne_true, Nat.add_zero] at ahead
      have oldest := queued.ring.getElem?_of_ne pending
      refine ⟨queued.ring, queued.close, ?_, ?_⟩
      · rw [← ahead] at oldest
        rcases List.getElem?_eq_some_iff.mp oldest with ⟨inside, isOldest⟩
        rw [← isOldest]
        exact List.concat_get_prefix queued.inOrder inside
      · simp only [List.length_append, List.length_singleton, ahead, if_true]
  | consumed isFetched =>
      have ahead := queued.ahead
      rw [if_pos isFetched] at ahead
      have waiting : state.consumed < state.accepted.length := by
        have shorter := queued.inOrder.length_le
        omega
      refine ⟨queued.ring.take waiting, ?_, queued.inOrder, ahead⟩
      have close := queued.close
      simp only
      omega

omit [DecidableEq Caller] in
/-- The daemon makes room for nobody to the disadvantage of a caller. -/
theorem Reached.consume (reached : state.Reached phase)
    (requests : next.ring.requests = state.ring.requests)
    (writeIdx : next.ring.reqWriteIdx = state.ring.reqWriteIdx)
    (capacity : next.ring.capacity = state.ring.capacity)
    (accepted : next.accepted = state.accepted) (consumed : state.consumed ≤ next.consumed) :
    next.Reached phase := by
  cases phase with
  | idle | entered _ | read _ _ => trivial
  | checked _ _ =>
      rcases reached with ⟨isIdx, room⟩
      refine ⟨isIdx.trans writeIdx.symm, ?_⟩
      rw [accepted, capacity]
      omega
  | copied _ _ =>
      rcases reached with ⟨isIdx, room, isEntry⟩
      refine ⟨isIdx.trans writeIdx.symm, ?_, by rw [requests, isEntry]⟩
      rw [accepted, capacity]
      omega

/-- A caller who moves outside takes nothing from the others. -/
theorem Turns.setPhase (turns : state.Turns) (caller : Caller) (outside : phase.inside = false) :
    (state.setPhase caller phase).Turns := by
  refine turns.move rfl (reached_of_outside _ outside) ?_ fun other _ => turns.reached other
  intro isInside
  cases outside.symm.trans isInside

/-- A step keeps the callers apart, if it is exclusive. -/
theorem Turns.step (turns : state.Turns) (queued : state.Queued)
    (exclusive : state.Exclusive action) (stepped : Stepped state action next) : next.Turns := by
  cases stepped with
  | connected =>
      refine ⟨turns.alone, ?_⟩
      exact fun caller => (turns.reached caller).consume rfl rfl rfl rfl le_rfl
  | turnedAway | empty => exact turns
  | entered | read _ | full => exact turns.setPhase _ rfl
  | @checked caller req writeIdx was notFull =>
      have room : state.findsRoom caller = true := by
        simp only [findsRoom, was]
        exact decide_eq_true notFull
      rcases exclusive room with ⟨current, outside⟩
      have isIdx : writeIdx = state.ring.reqWriteIdx := by
        simp only [isCurrent, was] at current
        exact of_decide_eq_true current
      rw [isIdx] at notFull
      have fits := (queued.ring.advance_ne_iff queued.close).mp notFull
      exact turns.move rfl ⟨isIdx, fits⟩ (fun _ other _ => outside other)
        fun other _ => turns.reached other
  | @copied caller req writeIdx was =>
      have reached := turns.reached caller
      rw [was] at reached
      rcases reached with ⟨isIdx, room⟩
      have others := turns.others_outside (inside_of_phase was rfl)
      refine turns.move rfl ⟨isIdx, room, Function.update_self _ _ _⟩ (fun _ => others) ?_
      exact fun other distinct => reached_of_outside _ (others other distinct)
  | @published caller req writeIdx was =>
      have others := turns.others_outside (inside_of_phase was rfl)
      refine turns.move rfl trivial (fun isInside => by cases isInside) ?_
      exact fun other distinct => reached_of_outside _ (others other distinct)
  | fetched _ _ => exact ⟨turns.alone, turns.reached⟩
  | consumed _ =>
      refine ⟨turns.alone, ?_⟩
      exact fun caller => (turns.reached caller).consume rfl rfl rfl rfl (Nat.le_succ _)

theorem Sound.step (sound : state.Sound) (exclusive : state.Exclusive action)
    (stepped : state.step action = some next) : next.Sound := by
  have taken := stepped_of_step stepped
  exact ⟨sound.queued.step sound.turns taken, sound.turns.step sound.queued exclusive taken⟩

omit [DecidableEq Caller] in
/-- A ring which looks empty has been emptied. -/
theorem Queued.delivered_of_empty (queued : state.Queued)
    (empty : state.ring.reqReadIdx = state.ring.reqWriteIdx) :
    state.delivered = state.accepted := by
  have ordered := queued.ring.ordered
  rw [queued.ring.readIdx_eq, queued.ring.writeIdx_eq] at empty
  have all := RingBuffer.eq_of_mod_eq ordered queued.close empty
  apply queued.inOrder.eq_of_length_le
  rw [← all, queued.ahead]
  exact Nat.le_add_right _ _

/-- As long as the callers take turns, the daemon is given the requests for which 0 was
returned, each once, unaltered and in order, and it has been given all of them when the ring is
empty. -/
theorem delivered_of_exclusive {ringEntries : ℕ} {dev : DuvmDevice}
    {actions : List (SubmitAction Caller)} (initialised : duvmInit ringEntries = .ok dev)
    (exclusive : Transition.Along step Exclusive (start Caller dev.ring) actions)
    (reached : Transition.run step (start Caller dev.ring) actions = some state) :
    state.delivered <+: state.accepted ∧
      (state.ring.reqReadIdx = state.ring.reqWriteIdx → state.delivered = state.accepted) := by
  have sound := Transition.run_induction (sound_start initialised)
    (fun _ _ _ sound exclusive stepped => sound.step exclusive stepped) exclusive reached
  exact ⟨sound.queued.inOrder, sound.queued.delivered_of_empty⟩

def firstRequest : DuvmRequest := ⟨.store, 1, 10, 0⟩

def secondRequest : DuvmRequest := ⟨.store, 2, 20, 1⟩

/-- One caller after the other, in a ring with room for one request. In between both of them find
it full at the same time. -/
def oneByOne : List (SubmitAction Bool) :=
  .connect true :: .submit false firstRequest :: List.replicate 4 (.proceed false) ++
    [.submit false secondRequest, .submit true secondRequest, .proceed false, .proceed true,
      .proceed false, .proceed true, .fetch, .consume, .submit true secondRequest] ++
    List.replicate 4 (.proceed true) ++ [.fetch, .consume]

theorem both_delivered :
    ∃ dev state, duvmInit 2 = .ok dev ∧
      Transition.run step (start Bool dev.ring) oneByOne = some state ∧
      state.accepted = [firstRequest, secondRequest] ∧ state.delivered = state.accepted := by
  have ran : ∃ dev state, duvmInit 2 = .ok dev ∧
      Transition.Along step Exclusive (start Bool dev.ring) oneByOne ∧
      Transition.run step (start Bool dev.ring) oneByOne = some state ∧
      state.accepted = [firstRequest, secondRequest] ∧
      state.ring.reqReadIdx = state.ring.reqWriteIdx :=
    ⟨_, _, rfl, by decide, rfl, rfl, rfl⟩
  rcases ran with ⟨dev, state, initialised, exclusive, reached, accepted, empty⟩
  exact ⟨dev, state, initialised, reached, accepted,
    (delivered_of_exclusive initialised exclusive reached).2 empty⟩

/-- Both callers read the index before either of them publishes. -/
def bothAtOnce : List (SubmitAction Bool) :=
  [.connect true, .submit false firstRequest, .submit true secondRequest, .proceed false,
    .proceed true, .proceed false, .proceed true, .proceed false, .proceed true, .proceed false,
    .proceed true, .fetch, .consume]

/-- Both callers are told 0, and the daemon, which has emptied the ring, was given one request. -/
theorem first_request_lost :
    ∃ dev state, duvmInit 4 = .ok dev ∧
      Transition.run step (start Bool dev.ring) bothAtOnce = some state ∧
      state.accepted = [firstRequest, secondRequest] ∧ state.delivered = [secondRequest] ∧
      state.ring.reqReadIdx = state.ring.reqWriteIdx :=
  ⟨_, _, rfl, rfl, rfl, rfl, rfl⟩

end Submitters

end Duvm.Kmod
