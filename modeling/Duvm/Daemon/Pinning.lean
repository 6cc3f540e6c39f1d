import Duvm.Daemon.Atomicity
import Duvm.Daemon.Retention

/-!
# Pinned pages

A page with the flag `PINNED` is not taken to make room. The flag is part of what the
policy records of the page: it stays through loads, changes of other flags and stores of
other offsets, but a store of the offset itself records the page anew, without flags.
-/

namespace Duvm

namespace PageFlags

/-- `PINNED` is the second bit. -/
theorem contains_pinned (flags : PageFlags) :
    flags.contains .PINNED = flags.bits.toBitVec.getLsbD 1 := by
  have pinnedBits : PINNED.bits.toBitVec = BitVec.twoPow 8 1 := rfl
  have sameBits : flags.contains .PINNED =
      (flags.bits.toBitVec &&& BitVec.twoPow 8 1 == BitVec.twoPow 8 1) := by
    rw [Bool.eq_iff_iff, contains, beq_iff_eq, beq_iff_eq, ← UInt8.toBitVec_inj,
      UInt8.toBitVec_and, pinnedBits]
  rw [sameBits, BitVec.and_twoPow]
  cases flags.bits.toBitVec.getLsbD 1 with
  | true => rfl
  | false => rfl

theorem pinned_insert {flags : PageFlags} (flag : PageFlags)
    (pinned : flags.contains .PINNED = true) : (flags.insert flag).contains .PINNED = true := by
  have bits : (flags.insert flag).bits.toBitVec =
      flags.bits.toBitVec ||| flag.bits.toBitVec := rfl
  rw [contains_pinned] at pinned ⊢
  rw [bits, BitVec.getLsbD_or, pinned, Bool.true_or]

theorem insert_pinned (flags : PageFlags) : (flags.insert .PINNED).contains .PINNED = true := by
  have bits : (flags.insert .PINNED).bits.toBitVec =
      flags.bits.toBitVec ||| PINNED.bits.toBitVec := rfl
  rw [contains_pinned, bits, BitVec.getLsbD_or, ← contains_pinned PINNED]
  exact Bool.or_true _

theorem pinned_remove {flags flag : PageFlags} (pinned : flags.contains .PINNED = true)
    (other : flag.contains .PINNED = false) : (flags.remove flag).contains .PINNED = true := by
  have bits : (flags.remove flag).bits.toBitVec =
      flags.bits.toBitVec &&& ~~~flag.bits.toBitVec := rfl
  rw [contains_pinned] at pinned other ⊢
  rw [bits, BitVec.getLsbD_and, BitVec.getLsbD_not, pinned, other]
  rfl

end PageFlags

namespace Daemon

universe u

namespace PolicyEngine

/-- The offset is tracked, and its page is pinned. -/
def Pinned (policy : PolicyEngine) (offset : UInt64) : Prop :=
  ∃ entry, policy.lookup offset = some entry ∧ entry.flags.contains .PINNED = true

theorem pinned_setFlag {policy : PolicyEngine} {offset : UInt64} {entry : PageMeta}
    (listed : policy.lookup offset = some entry) :
    (policy.setFlag offset .PINNED).Pinned offset := by
  have isListed : policy.pages.lookup offset = some entry := listed
  refine ⟨{ entry with flags := entry.flags.insert .PINNED }, ?_, PageFlags.insert_pinned _⟩
  unfold setFlag
  rw [isListed]
  exact (HashMap.lookup_replace_eq_ite (HashMap.mem_of_lookup_eq_some isListed) _ _).trans
    (if_pos rfl)

namespace Pinned

variable {policy : PolicyEngine} {offset : UInt64}

/-- An entry is changed in place, which keeps the page pinned if it is its own. -/
theorem replace (pinned : policy.Pinned offset) {key : UInt64} {entry updated : PageMeta}
    (listed : policy.pages.lookup key = some entry)
    (keeps : offset = key → entry.flags.contains .PINNED = true →
      updated.flags.contains .PINNED = true) :
    PolicyEngine.Pinned ⟨policy.pages.replace key updated⟩ offset := by
  rcases pinned with ⟨found, isFound, isPinned⟩
  have lookup := HashMap.lookup_replace_eq_ite (HashMap.mem_of_lookup_eq_some listed) offset updated
  by_cases same : offset = key
  · rw [if_pos same] at lookup
    have isEntry : found = entry := by
      rw [same] at isFound
      exact Option.some.inj (isFound.symm.trans listed)
    exact ⟨updated, lookup, keeps same (isEntry ▸ isPinned)⟩
  · rw [if_neg same] at lookup
    exact ⟨found, lookup.trans isFound, isPinned⟩

theorem recordLoad (pinned : policy.Pinned offset) (env : CallEnv) (key : UInt64) :
    (policy.recordLoad env key).Pinned offset := by
  unfold PolicyEngine.recordLoad
  cases listed : policy.pages.lookup key with
  | none => exact pinned
  | some entry => exact pinned.replace listed fun _ isPinned => isPinned

theorem setFlag (pinned : policy.Pinned offset) (key : UInt64) (flag : PageFlags) :
    (policy.setFlag key flag).Pinned offset := by
  unfold PolicyEngine.setFlag
  cases listed : policy.pages.lookup key with
  | none => exact pinned
  | some entry =>
      exact pinned.replace listed fun _ isPinned => PageFlags.pinned_insert flag isPinned

theorem clearFlag (pinned : policy.Pinned offset) {key : UInt64} {flag : PageFlags}
    (other : key = offset → flag.contains .PINNED = false) :
    (policy.clearFlag key flag).Pinned offset := by
  unfold PolicyEngine.clearFlag
  cases listed : policy.pages.lookup key with
  | none => exact pinned
  | some entry =>
      exact pinned.replace listed fun same isPinned =>
        PageFlags.pinned_remove isPinned (other same.symm)

end Pinned

end PolicyEngine

namespace Engine

variable {Backend : Type u} [DuvmBackend Backend]

variable {offset : UInt64} {engine : Engine Backend}

/-- The loop over the candidates records a page for its own offset only. -/
theorem lookup_storeOn_of_ne (env : CallEnv) {stored : UInt64} (data : PageBuffer) (tier : Tier)
    (ids : List UInt8) (lastErr : Option DuvmError) (engine : Engine Backend)
    (distinct : offset ≠ stored) :
    (storeOn env stored data tier ids lastErr engine).2.policy.lookup offset =
      engine.policy.lookup offset := by
  induction ids generalizing engine lastErr with
  | nil => rfl
  | cons id rest ih =>
      have round := tried env stored data tier id rest lastErr engine
      generalize storeOn env stored data tier (id :: rest) lastErr engine = result at round ⊢
      cases round with
      | absent unknown => exact ih lastErr engine
      | panicked backend after found panics => rfl
      | denied backend after error found refused => exact ih (some error) _
      | returned backend issued failed handle error found allocated refused =>
          exact ih (some error) _
      | placed backend issued after handle found allocated stored =>
          simp only
          rw [lookup_recordStore, if_neg distinct]

/-- Apart from its own offset, a store changes what is tracked only by what it takes for room. -/
theorem leftOrTaken_storePage (env : CallEnv) (engine : Engine Backend) {stored : UInt64}
    (data : PageBuffer) (distinct : offset ≠ stored) :
    engine.LeftOrTaken (engine.storePage env stored data).2 (engine.evicted env stored) offset := by
  have before := lookup_releaseOld_of_ne engine distinct
  have later : (engine.storePage env stored data).2.policy.lookup offset =
      ((engine.releaseOld stored).chooseTier env).2.policy.lookup offset := by
    unfold storePage
    cases (engine.releaseOld stored).chooseTier env with
    | mk result after =>
        cases result with
        | error error => rfl
        | ok tier => exact lookup_storeOn_of_ne env data tier _ none after distinct
  unfold Engine.evicted
  cases selected : PolicyEngine.selectTier (engine.releaseOld stored).backendCapacities with
  | some tier =>
      refine .left ?_ (Option.some_ne_none _).symm
      rw [later, ← before, chooseTier, selected]
  | none =>
      rw [policy_chooseTier_of_full selected] at later
      cases leftOrTaken_tryEvictFrom env _ (engine.releaseOld stored) offset with
      | left same unreported => exact .left (later.trans (same.trans before)) unreported
      | taken entry listed unpinned gone =>
          exact .taken entry (before.symm.trans listed) unpinned (later.trans gone)

/-- A pinned page is not taken to make room. -/
theorem left_of_pinned {stored : UInt64} (pinned : engine.policy.Pinned offset)
    (distinct : offset ≠ stored) (env : CallEnv) (data : PageBuffer) :
    (engine.storePage env stored data).2.policy.Pinned offset ∧
      engine.evicted env stored ≠ some offset := by
  rcases pinned with ⟨found, isFound, isPinned⟩
  cases leftOrTaken_storePage env engine data distinct with
  | left same unreported => exact ⟨⟨found, same.trans isFound, isPinned⟩, unreported⟩
  | taken entry listed unpinned gone =>
      cases isFound.symm.trans listed
      cases isPinned.symm.trans unpinned

theorem pinned_loadPage (pinned : engine.policy.Pinned offset) (env : CallEnv) (loaded : UInt64) :
    (engine.loadPage env loaded).2.policy.Pinned offset := by
  unfold loadPage
  split
  · exact pinned
  · split
    · exact pinned
    · split
      · exact pinned
      · exact pinned.recordLoad env loaded

theorem pinned_invalidatePage {invalidated : UInt64} (pinned : engine.policy.Pinned offset)
    (distinct : offset ≠ invalidated) :
    (engine.invalidatePage invalidated).2.policy.Pinned offset := by
  unfold PolicyEngine.Pinned
  rw [lookup_invalidatePage, if_neg distinct]
  exact pinned

end Engine

/-- A call which neither stores nor invalidates the offset, nor takes `PINNED` from it. -/
def Call.LeavesPinned (offset : UInt64) : Call → Prop
  | .store stored _ => offset ≠ stored
  | .load _ => True
  | .invalidate invalidated => offset ≠ invalidated
  | .setFlag _ _ => True
  | .clearFlag cleared flag => cleared = offset → flag.contains .PINNED = false

namespace Session

section Step

variable {Backend : Type u} [DuvmBackend Backend]

/-- The page of the offset is pinned, and is the one stored when the record was `past`. -/
structure KeptPinned (past : List Event) (offset : UInt64) (session : Session Backend) :
    Prop where
  pinned : session.engine.policy.Pinned offset
  same : kept session.log offset = kept past offset

variable {engine : Engine Backend} {offset : UInt64} {past : List Event}
  {session : Session Backend}

omit [DuvmBackend Backend] in
theorem KeptPinned.record (keeps : session.KeptPinned past offset) {event : Event}
    (pinned : engine.policy.Pinned offset) (untouched : event.touches offset = false) :
    (session.record engine event).KeptPinned past offset := by
  refine ⟨pinned, ?_⟩
  rw [Session.record, kept_concat, untouched]
  exact keeps.same

/-- A store of another offset does not take the page for room. -/
theorem KeptPinned.storePage {stored : UInt64} (keeps : session.KeptPinned past offset)
    (distinct : offset ≠ stored) {env : CallEnv} {data : PageBuffer}
    {outcome : Outcome PageHandle}
    (result : session.engine.storePage env stored data = (outcome, engine)) (reply : Reply) :
    (session.record engine
      ⟨.store stored data, reply, session.engine.evicted env stored⟩).KeptPinned past offset := by
  rcases Engine.left_of_pinned keeps.pinned distinct env data with ⟨after, unevicted⟩
  rw [result] at after
  apply keeps.record after
  simp [Event.touches, distinct.symm, unevicted]

theorem KeptPinned.invalidatePage {invalidated : UInt64} (keeps : session.KeptPinned past offset)
    (distinct : offset ≠ invalidated) {outcome : Except DuvmError Unit}
    (result : session.engine.invalidatePage invalidated = (outcome, engine)) (reply : Reply) :
    (session.record engine ⟨.invalidate invalidated, reply, none⟩).KeptPinned past offset := by
  have after := Engine.pinned_invalidatePage keeps.pinned distinct
  rw [result] at after
  apply keeps.record after
  simp [Event.touches, distinct.symm]

theorem KeptPinned.step {next : Session Backend} {action : CallEnv × Call}
    (keeps : session.KeptPinned past offset) (leaves : action.2.LeavesPinned offset)
    (stepped : session.step action = some next) :
    next.KeptPinned past offset := by
  have pinned := keeps.pinned
  cases called_of_step stepped with
  | stored result => exact keeps.storePage leaves result _
  | refused result => exact keeps.storePage leaves result _
  | @loaded env offset data engine result =>
      have after := Engine.pinned_loadPage pinned env offset
      rw [result] at after
      exact keeps.record after rfl
  | @missed env offset error engine result =>
      have after := Engine.pinned_loadPage pinned env offset
      rw [result] at after
      exact keeps.record after rfl
  | invalidated result => exact keeps.invalidatePage leaves result _
  | retained result => exact keeps.invalidatePage leaves result _
  | @flagged env offset flag => exact keeps.record (pinned.setFlag offset flag) rfl
  | unflagged => exact keeps.record (pinned.clearFlag leaves) rfl

end Step

variable {Backend : Type u} [LawfulBackend Backend]

/-- Once a tracked page has been pinned, it stays tracked and loads as before, as long as its
offset is not stored again, invalidated or unpinned. -/
theorem pinned_page_kept {backends : HashMap UInt8 Backend} {session marked next : Session Backend}
    {past later : List (CallEnv × Call)} {env : CallEnv} {offset : UInt64} {entry : PageMeta}
    (empty : ∀ id backend, backends.lookup id = some backend → Empty backend)
    (reached : Transition.run step (start backends) past = some session)
    (tracked : session.engine.policy.lookup offset = some entry)
    (marks : session.step (env, .setFlag offset .PINNED) = some marked)
    (leaves : ∀ action ∈ later, action.2.LeavesPinned offset)
    (continues : Transition.run step marked later = some next) :
    next.engine.policy.Pinned offset ∧
      ∃ data, (∀ env, (session.engine.loadPage env offset).1 = .ok data) ∧
        ∀ env, (next.engine.loadPage env offset).1 = .ok data := by
  have agrees := agrees_of_run empty reached
  have agreesThen : next.Agrees := by
    refine agrees_of_run empty (?_ : Transition.run step (start backends)
      (past ++ (env, .setFlag offset .PINNED) :: later) = some next)
    rw [Transition.run_append, reached, Option.bind_some, Transition.run_cons_of_step later marks]
    exact continues
  have keeps : next.KeptPinned session.log offset := by
    have begins : marked.KeptPinned session.log offset := by
      cases marks
      refine ⟨PolicyEngine.pinned_setFlag tracked, ?_⟩
      rw [record, kept_concat]
      rfl
    refine Transition.run_induction begins
      (fun _ _ _ keeps leaves stepped => keeps.step leaves stepped) ?_ continues
    apply Transition.along_of_forall
    rintro before action after middle rfl _
    exact leaves action (by simp)
  have present : (session.engine.contents offset).isSome :=
    (agrees.inv.contents_isSome_iff offset).mpr (HashMap.mem_of_lookup_eq_some tracked)
  rw [agrees.contents] at present
  rcases Option.isSome_iff_exists.mp present with ⟨data, isKept⟩
  refine ⟨keeps.pinned, data, ?_, ?_⟩
  · intro env
    exact (agrees.loadPage_eq_ok_iff env offset data).mpr isKept
  · intro env
    exact (agreesThen.loadPage_eq_ok_iff env offset data).mpr (keeps.same.trans isKept)

/-- With the only page pinned, there is no place for another one. -/
theorem only_page_pinned :
    ∃ session marked next,
      Transition.run step (start onePage) Engine.storeOne = some session ∧
      session.step (Engine.laterCall, .setFlag 1 .PINNED) = some marked ∧
      Transition.run step marked [(Engine.laterCall, .store 2 (.filled 2))] = some next ∧
      ∀ env, (next.engine.loadPage env 1).1 = .ok (.filled 1) := by
  have ran : ∃ session marked next entry,
      Transition.run step (start onePage) Engine.storeOne = some session ∧
      session.step (Engine.laterCall, .setFlag 1 .PINNED) = some marked ∧
      Transition.run step marked [(Engine.laterCall, .store 2 (.filled 2))] = some next ∧
      session.engine.policy.lookup 1 = some entry ∧
      (session.engine.loadPage Engine.laterCall 1).1 = .ok (.filled 1) :=
    ⟨_, _, _, _, rfl, rfl, rfl, rfl, rfl⟩
  rcases ran with ⟨session, marked, next, entry, reached, marks, continues, tracked, loads⟩
  have leaves : ∀ action ∈ [(Engine.laterCall, Call.store 2 (.filled 2))],
      action.2.LeavesPinned 1 := by
    intro action isAction
    rw [List.mem_singleton.mp isAction]
    exact (by decide : (1 : UInt64) ≠ 2)
  rcases pinned_page_kept empty_onePage reached tracked marks leaves continues with
    ⟨_, data, loadsBefore, loadsAfter⟩
  rw [loadsBefore] at loads
  cases loads
  exact ⟨session, marked, next, reached, marks, continues, loadsAfter⟩

/-- The page is pinned and stored anew, and then given up for another one. -/
theorem pinned_page_evicted :
    ∃ session, Transition.run step (start onePage)
        [(⟨1, .listed TrackedPage⟩, .store 1 (.filled 1)),
          (⟨2, .listed TrackedPage⟩, .setFlag 1 .PINNED),
          (⟨3, .listed TrackedPage⟩, .store 1 (.filled 3)),
          (⟨4, .listed TrackedPage⟩, .store 2 (.filled 2))] = some session ∧
      session.engine.policy.lookup 1 = none ∧
      ∀ env, (session.engine.loadPage env 1).1 = .error (.offsetNotFound 1) :=
  ⟨_, rfl, rfl, fun _ => rfl⟩

end Session

end Daemon

end Duvm
