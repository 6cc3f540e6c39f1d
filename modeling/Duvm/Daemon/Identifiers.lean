import Duvm.Backend.Identity
import Duvm.Backend.Lz4
import Duvm.Daemon.Startup
import Duvm.Library.Numbering

/-!
# The identifiers of the backends

`Engine::new` gives each backend which can be initialised the next identifier and
puts it into the map under it. The parts of the start are followed with two
rules, for what comes first and for what comes then: each of them makes some calls
of `init` and adds some backends, and with overflow checks it does the same until
the identifiers run out, and then panics.
-/

namespace Duvm.Daemon

open Numbering (Numbered)

variable {codec : Lz4}

/-- A backend which reaches its peer over TCP. -/
def Built.isTcp (entry : Built codec) : Bool :=
  match entry.backend with
  | .inr (.inr _) => true
  | _ => false

/-- The backends which were initialised are numbered in the order in which they came. -/
structure Startup.Valid (state : Startup codec) : Prop where
  next : state.nextId = UInt8.ofNat state.built.length
  numbered : Numbered state.backends (state.built.map Built.backend)
  constructed : ∀ index entry, state.built[index]? = some entry →
    IdentifiedBackend.backendId entry.backend = UInt8.ofNat index

theorem Startup.valid_initial : (Startup.initial codec).Valid where
  next := rfl
  numbered := Numbering.numbered_empty
  constructed := by
    intro index entry listed
    cases listed

/-- How a part of the start ends, and what it adds to the backends. With overflow checks it does
the same while the identifiers last, and panics when they do not. -/
structure Reaches {Value : Type} (part : Bool → Build codec Value) (state : Startup codec)
    (value : Value) (next : Startup codec) (added : List (Built codec)) : Prop where
  unchecked : part false state = .ok (value, next)
  checked : state.built.length < 2 ^ 8 →
    part true state = if next.built.length < 2 ^ 8 then .ok (value, next) else .error .panic
  valid : next.Valid
  built : next.built = state.built ++ added

/-- A part of the start which never returns an error: what it returns and adds, and the number of
calls of `init` after it, by the number before it. -/
def Adds {Value : Type} (calls : ℕ) (part : Bool → Build codec Value)
    (post : Value → List (Built codec) → ℕ → Prop) : Prop :=
  ∀ state : Startup codec, state.Valid → state.calls = calls →
    ∃ value next added, Reaches part state value next added ∧ post value added next.calls

section Rules

variable {Value Other : Type} {part : Bool → Build codec Value}
  {post weaker : Value → List (Built codec) → ℕ → Prop} {calls : ℕ}

theorem Adds.mono (adds : Adds calls part post)
    (weaken : ∀ value added ended, post value added ended → weaker value added ended) :
    Adds calls part weaker := by
  intro state valid isCalls
  rcases adds state valid isCalls with ⟨value, next, added, reaches, holds⟩
  exact ⟨value, next, added, reaches, weaken value added _ holds⟩

variable {state next : Startup codec} {value : Value} {added : List (Built codec)}

theorem Startup.Valid.pure (valid : state.Valid) (value : Value) :
    Reaches (fun _ => pure value) state value state [] where
  unchecked := rfl
  checked room := by
    rw [if_pos room]
    rfl
  valid := valid
  built := (List.append_nil _).symm

theorem Adds.pure (holds : post value [] calls) :
    Adds calls (fun _ => pure value) post := by
  rintro state valid rfl
  exact ⟨value, state, [], valid.pure value, holds⟩

theorem Reaches.congr {other : Bool → Build codec Value}
    (reaches : Reaches part state value next added)
    (same : ∀ checked, other checked state = part checked state) :
    Reaches other state value next added where
  unchecked := (same false).trans reaches.unchecked
  checked room := (same true).trans (reaches.checked room)
  valid := reaches.valid
  built := reaches.built

theorem Reaches.bind {rest : Value → Bool → Build codec Other} {middle : Startup codec}
    {other : Other} {more : List (Built codec)} (first : Reaches part state value middle added)
    (second : Reaches (rest value) middle other next more) :
    Reaches (fun checked => part checked >>= fun value => rest value checked) state other next
      (added ++ more) where
  unchecked := by
    change (part false state >>= fun result => rest result.1 false result.2) = _
    rw [first.unchecked]
    exact second.unchecked
  checked room := by
    change (part true state >>= fun result => rest result.1 true result.2) = _
    rw [first.checked room]
    by_cases fits : middle.built.length < 2 ^ 8
    · rw [if_pos fits]
      exact second.checked fits
    · -- The panic is in the first part, and the second one would only have added more.
      have grown : middle.built.length ≤ next.built.length := by
        rw [second.built, List.length_append]
        exact Nat.le_add_right _ _
      rw [if_neg fits, if_neg (by omega)]
      rfl
  valid := second.valid
  built := by rw [second.built, first.built, List.append_assoc]

theorem Reaches.seq {rest : Bool → Build codec Other} {middle : Startup codec} {other : Other}
    {more : List (Built codec)} (first : Reaches part state value middle added)
    (second : Reaches rest middle other next more) :
    Reaches (fun checked => part checked >>= fun _ => rest checked) state other next
      (added ++ more) :=
  @Reaches.bind _ _ _ _ _ _ _ _ (fun _ => rest) _ _ _ first second

theorem Reaches.yields (reaches : Reaches part state value next added) (other : Other) :
    Reaches (fun checked => part checked >>= fun _ => pure other) state other next added := by
  have both := reaches.seq (reaches.valid.pure other)
  rwa [List.append_nil] at both

theorem Adds.bind {rest : Value → Bool → Build codec Other}
    {after : Other → List (Built codec) → ℕ → Prop} (first : Adds calls part post)
    (second : ∀ value added middle, post value added middle →
      Adds middle (rest value) fun other more => after other (added ++ more)) :
    Adds calls (fun checked => part checked >>= fun value => rest value checked) after := by
  intro state valid isCalls
  rcases first state valid isCalls with ⟨value, middle, added, reaches, holds⟩
  rcases second value added _ holds middle reaches.valid rfl with ⟨other, next, more, on, result⟩
  exact ⟨other, next, added ++ more, reaches.bind on, result⟩

end Rules

variable {state : Startup codec} {added : List (Built codec)}

theorem Startup.Valid.register (valid : state.Valid) (peer : Option ℕ)
    {make : UInt8 → AnyBackend codec} (named : ∀ id, IdentifiedBackend.backendId (make id) = id) :
    Reaches (fun checked => register checked peer make) state ()
      { backends := state.backends.insert state.nextId (make state.nextId)
        nextId := state.nextId + 1
        calls := state.calls + 1
        built := state.built ++ [⟨peer, make state.nextId⟩] }
      [⟨peer, make state.nextId⟩] where
  unchecked := rfl
  checked room := by
    have count : state.nextId.toNat = state.built.length := by
      rw [valid.next, UInt8.toNat_ofNat', Nat.mod_eq_of_lt room]
    unfold Daemon.register
    rw [count, List.length_append, List.length_singleton, Bool.true_and]
    by_cases last : state.built.length + 1 = 2 ^ 8
    · rw [if_pos (decide_eq_true last), if_neg (by omega)]
    · rw [if_neg (by simpa using last), if_pos (by omega)]
  valid := {
    next := by
      simp only [List.length_append, List.length_singleton, valid.next, UInt8.ofNat_add]
      rfl
    numbered := by
      have extended := valid.numbered.concat (make state.nextId)
      rw [List.length_map, ← valid.next] at extended
      simpa using extended
    constructed := by
      intro index entry listed
      rcases Log.old_or_new listed with old | ⟨rfl, rfl⟩
      · exact valid.constructed index entry old
      · rw [named, valid.next] }
  built := rfl

theorem Startup.Valid.skip (valid : state.Valid) :
    Reaches (fun _ => skip) state () { state with calls := state.calls + 1 } [] where
  unchecked := rfl
  checked room := by
    rw [if_pos room]
    rfl
  valid := ⟨valid.next, valid.numbered, valid.constructed⟩
  built := (List.append_nil _).symm

/-- Backends for one peer, so many of them over TCP; so many calls of `init` have succeeded, of so
many which were made. -/
structure ForPeer (peer tcp : ℕ) (inits : ℕ × ℕ) (calls : ℕ) (added : List (Built codec))
    (ended : ℕ) : Prop where
  same : ∀ entry ∈ added, entry.peer = some peer
  tcp : added.countP Built.isTcp = tcp
  built : added.length = inits.1
  ended : ended = calls + inits.2

theorem ForPeer.append {peer tcp more calls middle ended : ℕ} {inits others : ℕ × ℕ}
    {rest : List (Built codec)} (first : ForPeer peer tcp inits calls added middle)
    (second : ForPeer peer more others middle rest ended) :
    ForPeer peer (tcp + more) (inits + others) calls (added ++ rest) ended where
  same entry listed := (List.mem_append.mp listed).elim (first.same entry) (second.same entry)
  tcp := by rw [List.countP_append, first.tcp, second.tcp]
  built := by rw [List.length_append, first.built, second.built, Prod.fst_add]
  ended := by rw [second.ended, first.ended, Nat.add_assoc, Prod.snd_add]

/-- A backend is added exactly if its `init` succeeds. -/
theorem adds_attempt {Connected : Type} (init : ℕ → Option Connected) (peer : ℕ) (isTcp : Bool)
    (calls : ℕ) {make : Connected → UInt8 → AnyBackend codec}
    (named : ∀ connected id, IdentifiedBackend.backendId (make connected id) = id)
    (kind : ∀ connected id, (Built.mk (some peer) (make connected id)).isTcp = isTcp) :
    Adds calls (fun checked => attempt checked init peer make) fun done added ended =>
      done = (init calls).isSome ∧
        ForPeer peer (done && isTcp).toNat (done.toNat, 1) calls added ended := by
  rintro state valid rfl
  cases came : init state.calls with
  | none =>
      refine ⟨false, _, _, (valid.skip.yields false).congr ?_, rfl, by simp, rfl, rfl, rfl⟩
      intro checked
      simp only [attempt, came]
  | some connected =>
      have registered := valid.register (some peer) (named connected)
      refine ⟨true, _, _, (registered.yields true).congr ?_, rfl, by simp, ?_, rfl, rfl⟩
      · intro checked
        simp only [attempt, came]
      · rw [Bool.true_and, List.countP_singleton, kind]
        cases isTcp <;> rfl

/-- How many of the calls of `init` for a peer succeed, and how many there are; the first of them
has the number given. -/
def peerInits (env : StartupEnv) (transport : String) (calls : ℕ) : ℕ × ℕ :=
  match transport with
  | "rdma" => ((env.rdmaInit calls).isSome.toNat, 1)
  | "auto" =>
      if env.rdmaAvailable then
        if (env.rdmaInit calls).isSome then (1, 1)
        else ((env.tcpInit (calls + 1)).isSome.toNat, 2)
      else ((env.tcpInit calls).isSome.toNat, 1)
  | "both" =>
      if (env.rdmaInit calls).isSome then (1 + (env.tcpInit (calls + 1)).isSome.toNat, 2)
      else if (env.tcpInit (calls + 1)).isSome then (1, 2)
      else ((env.tcpInit (calls + 2)).isSome.toNat, 3)
  | _ => ((env.tcpInit calls).isSome.toNat, 1)

section Peers

variable (env : StartupEnv) (remote : RemoteBackendConfig) (peer : ℕ) (addr : String) (calls : ℕ)

theorem adds_attemptRdma : Adds calls
    (fun checked => @attemptRdma codec checked env remote.maxPagesPerPeer peer)
    fun done added ended => done = (env.rdmaInit calls).isSome ∧
      ForPeer peer 0 (done.toNat, 1) calls added ended := by
  simpa [attemptRdma] using
    adds_attempt env.rdmaInit peer false calls (fun _ _ => rfl) (fun _ _ => rfl)

theorem adds_attemptTcp : Adds calls
    (fun checked => @attemptTcp codec checked env remote.maxPagesPerPeer peer addr)
    fun done added ended => done = (env.tcpInit calls).isSome ∧
      ForPeer peer done.toNat (done.toNat, 1) calls added ended := by
  simpa [attemptTcp] using
    adds_attempt env.tcpInit peer true calls (fun _ _ => rfl) (fun _ _ => rfl)

variable {env remote peer addr calls} {tcp middle : ℕ} {inits : ℕ × ℕ}
  {added : List (Built codec)}

theorem ForPeer.adds_nothing (first : ForPeer peer tcp inits calls added middle) (few : tcp ≤ 1) :
    Adds middle (fun _ => (pure () : Build codec Unit))
      fun _ more ended => ∃ tcp ≤ 1, ForPeer peer tcp inits calls (added ++ more) ended :=
  .pure ⟨tcp, few, by simpa using first⟩

theorem ForPeer.adds_tcp (first : ForPeer peer 0 inits calls added middle) :
    Adds middle (fun checked => do
      let _ ← attemptTcp checked env remote.maxPagesPerPeer peer addr
      pure ()) fun _ more ended => ∃ tcp ≤ 1,
        ForPeer peer tcp (inits + ((env.tcpInit middle).isSome.toNat, 1)) calls (added ++ more)
          ended := by
  refine (adds_attemptTcp env remote peer addr middle).bind ?_
  rintro done more ended ⟨rfl, second⟩
  refine .pure ⟨(env.tcpInit middle).isSome.toNat, Bool.toNat_le _, ?_⟩
  simpa using first.append second

/-- A peer gets at most one backend over TCP: the second attempt is not made after a fallback. -/
theorem adds_initPeer : Adds calls (fun checked => @initPeer codec checked env remote peer addr)
    fun _ added ended => ∃ tcp ≤ 1,
      ForPeer peer tcp (peerInits env remote.transport calls) calls added ended := by
  have rdma := @adds_attemptRdma codec env remote peer calls
  have only : Adds calls (fun checked => do
      let _ ← @attemptTcp codec checked env remote.maxPagesPerPeer peer addr
      pure ()) fun _ added ended => ∃ tcp ≤ 1,
        ForPeer peer tcp ((env.tcpInit calls).isSome.toNat, 1) calls added ended := by
    refine (adds_attemptTcp env remote peer addr calls).bind ?_
    rintro done added middle ⟨rfl, own⟩
    exact own.adds_nothing (Bool.toNat_le _)
  unfold peerInits
  split
  · next isRdma =>
      simp only [initPeer, initPeerRdma, isRdma, useRdma, useTcp, bind_assoc, if_true]
      refine rdma.bind ?_
      rintro done added middle ⟨rfl, first⟩
      simpa using first.adds_nothing (Nat.zero_le 1)
  · next isAuto =>
      simp only [initPeer, initPeerRdma, isAuto, useRdma, useTcp]
      cases env.rdmaAvailable with
      | false => simpa using only
      | true =>
          simp only [if_true, bind_assoc]
          refine rdma.bind ?_
          rintro done added middle ⟨rfl, first⟩
          cases connected : (env.rdmaInit calls).isSome with
          | true =>
              rw [connected] at first
              simpa using first.adds_nothing (Nat.zero_le 1)
          | false =>
              rw [connected] at first
              have ended := first.ended
              simpa [ended] using first.adds_tcp
  · next isBoth =>
      simp only [initPeer, initPeerRdma, isBoth, useRdma, useTcp, if_true, bind_assoc]
      refine rdma.bind ?_
      rintro done added middle ⟨rfl, first⟩
      cases connected : (env.rdmaInit calls).isSome with
      | true =>
          rw [connected] at first
          have ended := first.ended
          simpa [ended] using first.adds_tcp
      | false =>
          rw [connected] at first
          simp only [Bool.false_eq_true, if_false, or_true]
          refine (adds_attemptTcp env remote peer addr middle).bind ?_
          rintro done more last ⟨rfl, second⟩
          have both := first.append second
          have ended := second.ended
          rw [first.ended] at both ended
          cases created : (env.tcpInit (calls + 1)).isSome with
          | true =>
              rw [created] at both
              simpa [first.ended, created, ← List.append_assoc] using both.adds_nothing le_rfl
          | false =>
              rw [created] at both
              simpa [first.ended, created, ended, ← List.append_assoc] using both.adds_tcp
  · next noRdma noAuto noBoth =>
      have noFirst : useRdma remote.transport env.rdmaAvailable = false := by
        unfold useRdma
        split <;> trivial
      have isSecond : useTcp remote.transport env.rdmaAvailable = true := by
        unfold useTcp
        split <;> trivial
      simpa [initPeer, initPeerRdma, noFirst, isSecond] using only

end Peers

/-- How many backends reach a peer over TCP. -/
def tcpTo (peer : ℕ) (built : List (Built codec)) : ℕ :=
  built.countP fun entry => entry.peer == some peer && entry.isTcp

theorem tcpTo_append (peer : ℕ) (built added : List (Built codec)) :
    tcpTo peer (built ++ added) = tcpTo peer built + tcpTo peer added :=
  List.countP_append

theorem tcpTo_eq_zero {peer : ℕ} {built : List (Built codec)}
    (others : ∀ entry ∈ built, entry.peer ≠ some peer) : tcpTo peer built = 0 := by
  apply List.countP_eq_zero.mpr
  intro entry listed counted
  rw [Bool.and_eq_true, beq_iff_eq] at counted
  exact others entry listed counted.1

theorem ForPeer.tcpTo_le {peer tcp calls ended : ℕ} {inits : ℕ × ℕ}
    (own : ForPeer peer tcp inits calls added ended) (other : ℕ) : tcpTo other added ≤ tcp := by
  rw [← own.tcp]
  apply List.countP_mono_left
  intro entry _ counted
  rw [Bool.and_eq_true] at counted
  exact counted.2

/-- Backends for the peers from some number on, at most one for each of them over TCP. -/
structure ForPeers (start : ℕ) (added : List (Built codec)) : Prop where
  later : ∀ entry ∈ added, ∃ peer, start ≤ peer ∧ entry.peer = some peer
  one : ∀ peer, tcpTo peer added ≤ 1

theorem ForPeers.nil (start : ℕ) : ForPeers start ([] : List (Built codec)) :=
  ⟨by simp, fun _ => Nat.zero_le 1⟩

theorem ForPeers.append {peer tcp calls ended : ℕ} {inits : ℕ × ℕ} {rest : List (Built codec)}
    (own : ForPeer peer tcp inits calls added ended) (few : tcp ≤ 1)
    (others : ForPeers (peer + 1) rest) : ForPeers peer (added ++ rest) where
  later entry listed := by
    rcases List.mem_append.mp listed with isOwn | isOther
    · exact ⟨peer, Nat.le_refl peer, own.same entry isOwn⟩
    · rcases others.later entry isOther with ⟨number, after, same⟩
      exact ⟨number, by omega, same⟩
  one number := by
    rw [tcpTo_append]
    by_cases same : number = peer
    · have none : tcpTo number rest = 0 := by
        apply tcpTo_eq_zero
        intro entry listed isOwn
        rcases others.later entry listed with ⟨later, after, other⟩
        rw [other, Option.some.injEq] at isOwn
        omega
      have some := own.tcpTo_le number
      omega
    · have none : tcpTo number added = 0 := by
        apply tcpTo_eq_zero
        intro entry listed isOther
        rw [own.same entry listed, Option.some.injEq] at isOther
        exact same isOther.symm
      have some := others.one number
      omega

/-- How many succeed for so many peers. -/
def peersInits (env : StartupEnv) (transport : String) : ℕ → ℕ → ℕ
  | 0, _ => 0
  | peers + 1, calls =>
      (peerInits env transport calls).1 +
        peersInits env transport peers (calls + (peerInits env transport calls).2)

theorem adds_initPeers (env : StartupEnv) (remote : RemoteBackendConfig) (addrs : List String) :
    ∀ peer calls, Adds calls (fun checked => @initPeers codec checked env remote peer addrs)
      fun _ added _ => ForPeers peer added ∧
        added.length = peersInits env remote.transport addrs.length calls := by
  induction addrs with
  | nil => exact fun peer calls => .pure ⟨.nil peer, rfl⟩
  | cons addr rest ih =>
      intro peer calls
      refine adds_initPeer.bind ?_
      rintro ⟨⟩ added middle ⟨tcp, few, own⟩
      refine (ih (peer + 1) middle).mono ?_
      rintro ⟨⟩ more ended ⟨others, count⟩
      refine ⟨.append own few others, ?_⟩
      rw [List.length_append, own.built, count, own.ended]
      rfl

/-- How many succeed for the remote backends, unless the transport is refused. -/
def remoteInits (env : StartupEnv) (calls : ℕ) : Option RemoteBackendConfig → Option ℕ
  | none => some 0
  | some remote =>
      if remote.enabled then
        if remote.transport = "rdma" ∧ env.rdmaAvailable = false then none
        else some (peersInits env remote.transport remote.peers.length calls)
      else some 0

/-- The remote backends: either the transport is refused, or every peer is tried. -/
theorem initRemote_cases (env : StartupEnv) (chosen : Option RemoteBackendConfig) (calls : ℕ) :
    (remoteInits env calls chosen = none ∧ ∀ checked (state : Startup codec),
      initRemote checked env chosen state = .error (.error .rdmaRequired)) ∨
    ∃ count, remoteInits env calls chosen = some count ∧
      Adds calls (fun checked => @initRemote codec checked env chosen)
        fun _ added _ => ForPeers 0 added ∧ added.length = count := by
  cases chosen with
  | none => exact Or.inr ⟨0, rfl, .pure ⟨.nil 0, rfl⟩⟩
  | some remote =>
      unfold initRemote remoteInits
      simp only
      split
      · split
        · exact Or.inl ⟨rfl, fun _ _ => rfl⟩
        · exact Or.inr ⟨_, rfl, adds_initPeers env remote remote.peers 0 calls⟩
      · exact Or.inr ⟨0, rfl, .pure ⟨.nil 0, rfl⟩⟩

/-- A part of the start which adds a backend on this machine if it is enabled, and ends the start if
its `init` fails. -/
def AddsLocal (env : StartupEnv) (enabled : Bool) (part : Bool → Build codec Unit) : Prop :=
  ∀ state : Startup codec, state.Valid →
    if enabled && !env.localInit state.calls then
      ∀ checked, part checked state = .error (.error .initFailed)
    else ∃ next added, Reaches part state () next added ∧ added.length = enabled.toNat ∧
      next.calls = state.calls + enabled.toNat ∧ ∀ entry ∈ added, entry.peer = none

theorem addsLocal_initLocal (env : StartupEnv) (enabled : Bool)
    {make : UInt8 → LocalBackend codec} (named : ∀ id, (make id).backendId = id) :
    AddsLocal env enabled fun checked => initLocal checked env enabled make := by
  intro state valid
  unfold initLocal
  cases enabled with
  | false => exact ⟨state, [], valid.pure (), rfl, rfl, by simp⟩
  | true =>
      cases came : env.localInit state.calls with
      | false =>
          intro checked
          simp [came]
      | true =>
          have registered := @Startup.Valid.register codec state valid none
            (fun id => .inl (make id)) named
          refine ⟨_, _, registered.congr ?_, rfl, rfl, by simp⟩
          intro checked
          simp [came]

theorem addsLocal_pure (env : StartupEnv) :
    AddsLocal env false fun _ => (pure () : Build codec Unit) :=
  fun state valid => ⟨state, [], valid.pure (), rfl, rfl, by simp⟩

def DaemonConfig.memoryEnabled (config : DaemonConfig) : Bool :=
  config.backends.memory.any MemoryBackendConfig.enabled

def DaemonConfig.compressEnabled (config : DaemonConfig) : Bool :=
  config.backends.compress.any CompressBackendConfig.enabled

theorem addsLocal_initMemory (env : StartupEnv) (config : DaemonConfig) :
    AddsLocal env config.memoryEnabled fun checked =>
      @initMemory codec checked env config.backends.memory := by
  unfold DaemonConfig.memoryEnabled
  cases config.backends.memory with
  | none => exact addsLocal_pure env
  | some mem => exact addsLocal_initLocal env mem.enabled fun _ => rfl

theorem addsLocal_initCompress (env : StartupEnv) (config : DaemonConfig) :
    AddsLocal env config.compressEnabled fun checked =>
      @initCompress codec checked env config.backends.compress := by
  unfold DaemonConfig.compressEnabled
  cases config.backends.compress with
  | none => exact addsLocal_pure env
  | some comp => exact addsLocal_initLocal env comp.enabled fun _ => rfl

/-- The number of calls of `init` which succeed, unless the start returns an error. -/
def successes (env : StartupEnv) (config : DaemonConfig) : ℕ :=
  let memory := config.memoryEnabled.toNat
  let locals := memory + config.compressEnabled.toNat
  if config.memoryEnabled && !env.localInit 0 then 0
  else if config.compressEnabled && !env.localInit memory then 0
  else ((remoteInits env locals config.backends.remote).map fun count => locals + count).getD 0

theorem Reaches.run_eq {Value : Type} {part : Bool → Build codec Value} {next : Startup codec}
    {value : Value} (reaches : Reaches part state value next added)
    (fits : next.built.length < 2 ^ 8) (checked : Bool) :
    part checked state = .ok (value, next) := by
  cases checked with
  | false => exact reaches.unchecked
  | true =>
      have grown : state.built.length ≤ next.built.length := by
        rw [reaches.built, List.length_append]
        exact Nat.le_add_right _ _
      rw [reaches.checked (by omega), if_pos fits]

theorem bind_of_error {Value Other : Type} {part : Build codec Value} {halt : Halt}
    (fails : part state = .error halt) (rest : Value → Build codec Other) :
    (part >>= rest) state = .error halt := by
  change (part state >>= fun result => rest result.1 result.2) = _
  rw [fails]
  rfl

theorem bind_of_ok {Value Other : Type} {part : Build codec Value} {next : Startup codec}
    {value : Value} (succeeds : part state = .ok (value, next)) (rest : Value → Build codec Other) :
    (part >>= rest) state = rest value next := by
  change (part state >>= fun result => rest result.1 result.2) = _
  rw [succeeds]
  rfl

/-- The whole start: an error, before there are many backends, or all of them with at most one
for each peer over TCP. -/
theorem buildBackends_cases (codec : Lz4) (env : StartupEnv) (config : DaemonConfig) :
    (successes env config = 0 ∧ ∃ error, ∀ checked,
      buildBackends checked env config (Startup.initial codec) = .error (.error error)) ∨
    ∃ next, Reaches (fun checked => buildBackends checked env config) (Startup.initial codec) ()
      next next.built ∧ next.built.length = successes env config ∧
        ∀ peer, tcpTo peer next.built ≤ 1 := by
  unfold successes
  have first := @addsLocal_initMemory codec env config _ Startup.valid_initial
  have noCalls : (Startup.initial codec).calls = 0 := rfl
  rw [noCalls] at first
  split at first
  · next fails =>
      rw [if_pos fails]
      exact Or.inl ⟨rfl, .initFailed, fun checked => bind_of_error (first checked) _⟩
  next goes =>
  rcases first with ⟨first, memory, toFirst, oneMemory, firstCalls, ofMemory⟩
  have firstBuilt : first.built = memory := toFirst.built
  have few := Bool.toNat_le config.memoryEnabled
  have firstFits := toFirst.run_eq (by rw [firstBuilt]; omega)
  have second := addsLocal_initCompress env config first toFirst.valid
  rw [firstCalls, Nat.zero_add] at second
  rw [if_neg goes]
  split at second
  · next fails =>
      rw [if_pos fails]
      refine Or.inl ⟨rfl, .initFailed, fun checked => ?_⟩
      exact (bind_of_ok (firstFits checked) _).trans (bind_of_error (second checked) _)
  next goesOn =>
  rcases second with ⟨second, compress, toSecond, oneCompress, secondCalls, ofCompress⟩
  have fewCompress := Bool.toNat_le config.compressEnabled
  have secondFits := toSecond.run_eq (by
    rw [toSecond.built, firstBuilt, List.length_append]
    omega)
  rw [if_neg goesOn]
  rcases @initRemote_cases codec env config.backends.remote _ with
    ⟨none, refused⟩ | ⟨count, isCount, adds⟩
  · rw [none]
    refine Or.inl ⟨rfl, .rdmaRequired, fun checked => ?_⟩
    exact (bind_of_ok (firstFits checked) _).trans
      ((bind_of_ok (secondFits checked) _).trans (refused checked second))
  rcases adds second toSecond.valid secondCalls with ⟨⟨⟩, next, remote, toNext, peers, more⟩
  have all := toFirst.seq (toSecond.seq toNext)
  have built : next.built = memory ++ (compress ++ remote) := all.built
  refine Or.inr ⟨next, built ▸ all, ?_, ?_⟩
  · rw [isCount, built, List.length_append, List.length_append, oneMemory, oneCompress, more,
      ← Nat.add_assoc]
    rfl
  intro peer
  have noMemory : tcpTo peer memory = 0 := by
    apply tcpTo_eq_zero
    intro entry listed
    simp [ofMemory entry listed]
  have noCompress : tcpTo peer compress = 0 := by
    apply tcpTo_eq_zero
    intro entry listed
    simp [ofCompress entry listed]
  rw [built, tcpTo_append, tcpTo_append, noMemory, noCompress, Nat.zero_add, Nat.zero_add]
  exact peers.one peer

/-- Every backend which was initialised is in the map, under the identifier with which it was
constructed, and whatever is done with it its handles lead there. -/
structure Engine.UniqueIds (engine : Engine (AnyBackend codec)) (built : List (Built codec)) :
    Prop where
  count : HashMap.size engine.backends = built.length
  kept : ∀ entry ∈ built,
    engine.backends.lookup (IdentifiedBackend.backendId entry.backend) = some entry.backend
  constructed : ∀ key backend, engine.backends.lookup key = some backend →
    IdentifiedBackend.backendId backend = key
  decoded : ∀ key backend, engine.backends.lookup key = some backend →
    ∀ (calls : List BackendCall) handle after,
      DuvmBackend.allocPage (calls.foldl BackendCall.after backend) = (.ok handle, after) →
      handle.backendId = key

/-- The start returns an error, or an engine with one backend for each successful `init` and at
most one for each peer over TCP. -/
def WellBuilt (codec : Lz4) (checked : Bool) (env : StartupEnv) (config : DaemonConfig) : Prop :=
  (∃ error, Engine.new codec checked env config = .error (.error error)) ∨
  ∃ engine built, Engine.new codec checked env config = .ok (engine, built) ∧
    engine.UniqueIds built ∧ ∀ peer, tcpTo peer built ≤ 1

theorem Startup.Valid.uniqueIds (valid : state.Valid) (fits : state.built.length ≤ 2 ^ 8) :
    (Engine.withBackends state.backends).UniqueIds state.built := by
  have constructed : ∀ key backend, state.backends.lookup key = some backend →
      IdentifiedBackend.backendId backend = key := by
    intro key backend found
    rcases valid.numbered.exists_index found with ⟨index, listed, rfl⟩
    rw [List.getElem?_map, Option.map_eq_some_iff] at listed
    rcases listed with ⟨entry, listed, rfl⟩
    exact valid.constructed index entry listed
  refine ⟨?_, ?_, constructed, ?_⟩
  · have size := valid.numbered.size_eq
    rw [List.length_map] at size
    exact size.trans (Nat.min_eq_left fits)
  · intro entry listed
    rcases List.getElem?_of_mem listed with ⟨index, stands⟩
    rw [valid.constructed index entry stands]
    apply valid.numbered.recent index entry.backend
    · rw [List.getElem?_map, stands]
      rfl
    · rw [List.length_map]
      omega
  · intro key backend found calls handle after allocated
    rw [BackendCall.backendId_of_handle calls allocated]
    exact constructed key backend found

theorem Startup.Valid.uniqueIds_iff (valid : state.Valid) :
    (Engine.withBackends state.backends).UniqueIds state.built ↔
      state.built.length ≤ 2 ^ 8 := by
  refine ⟨fun unique => ?_, valid.uniqueIds⟩
  have size := valid.numbered.size_eq
  rw [List.length_map] at size
  have count : HashMap.size state.backends = state.built.length := unique.count
  omega

/-- The ways in which a start ends, with overflow checks and without. -/
theorem Engine.new_cases (codec : Lz4) (env : StartupEnv) (config : DaemonConfig) :
    (successes env config = 0 ∧
      ∃ error, ∀ checked, Engine.new codec checked env config = .error (.error error)) ∨
    ∃ state : Startup codec, state.Valid ∧ state.built.length = successes env config ∧
      (∀ peer, tcpTo peer state.built ≤ 1) ∧
      Engine.new codec false env config = .ok (.withBackends state.backends, state.built) ∧
      Engine.new codec true env config =
        if state.built.length < 2 ^ 8 then .ok (.withBackends state.backends, state.built)
        else .error .panic := by
  rcases buildBackends_cases codec env config with
    ⟨none, error, fails⟩ | ⟨state, reaches, count, one⟩
  · refine Or.inl ⟨none, error, fun checked => ?_⟩
    rw [Engine.new, fails checked]
  · refine Or.inr ⟨state, reaches.valid, count, one, ?_, ?_⟩
    · have unchecked : buildBackends false env config (Startup.initial codec) = .ok ((), state) :=
        reaches.unchecked
      rw [Engine.new, unchecked]
    · have checked : buildBackends true env config (Startup.initial codec) =
          if state.built.length < 2 ^ 8 then .ok ((), state) else .error .panic :=
        reaches.checked (Nat.two_pow_pos 8)
      rw [Engine.new, checked]
      split_ifs
      · rfl
      · rfl

/-- Without overflow checks the last 256 backends are left. -/
theorem size_of_new {env : StartupEnv} {config : DaemonConfig} {engine : Engine (AnyBackend codec)}
    {built : List (Built codec)}
    (started : Engine.new codec false env config = .ok (engine, built)) :
    HashMap.size engine.backends = min (successes env config) (2 ^ 8) := by
  rcases Engine.new_cases codec env config with
    ⟨-, error, fails⟩ | ⟨state, valid, count, -, unchecked, -⟩
  · rw [fails] at started
    cases started
  · rw [unchecked] at started
    cases started
    have size := valid.numbered.size_eq
    rwa [List.length_map, count] at size

theorem wellBuilt_unchecked (codec : Lz4) (env : StartupEnv) (config : DaemonConfig) :
    WellBuilt codec false env config ↔ successes env config ≤ 2 ^ 8 := by
  unfold WellBuilt
  rcases Engine.new_cases codec env config with
    ⟨none, error, fails⟩ | ⟨state, valid, count, one, unchecked, -⟩
  · rw [fails, none]
    exact ⟨fun _ => Nat.zero_le _, fun _ => Or.inl ⟨error, rfl⟩⟩
  · rw [unchecked, ← count]
    constructor
    · rintro (⟨error, ⟨⟩⟩ | ⟨engine, built, ⟨⟩, unique, -⟩)
      exact valid.uniqueIds_iff.mp unique
    · intro fits
      exact Or.inr ⟨_, _, rfl, valid.uniqueIds_iff.mpr fits, one⟩

theorem wellBuilt_checked (codec : Lz4) (env : StartupEnv) (config : DaemonConfig) :
    WellBuilt codec true env config ↔ successes env config < 2 ^ 8 := by
  unfold WellBuilt
  rcases Engine.new_cases codec env config with
    ⟨none, error, fails⟩ | ⟨state, valid, count, one, -, checked⟩
  · rw [fails, none]
    exact ⟨fun _ => Nat.two_pow_pos 8, fun _ => Or.inl ⟨error, rfl⟩⟩
  · rw [checked, ← count]
    by_cases fits : state.built.length < 2 ^ 8
    · rw [if_pos fits]
      refine ⟨fun _ => fits, fun _ => ?_⟩
      exact Or.inr ⟨_, _, rfl, valid.uniqueIds_iff.mpr (Nat.le_of_lt fits), one⟩
    · rw [if_neg fits]
      refine ⟨?_, fun few => absurd few fits⟩
      rintro (⟨error, ⟨⟩⟩ | ⟨engine, built, ⟨⟩, -⟩)

/-- The backends have identifiers of their own exactly if there are enough identifiers: 256 of
them, of which the last one can not be given out when overflow is checked. -/
theorem wellBuilt_iff (codec : Lz4) (checked : Bool) (env : StartupEnv) (config : DaemonConfig) :
    WellBuilt codec checked env config ↔
      successes env config ≤ if checked then 2 ^ 8 - 1 else 2 ^ 8 := by
  cases checked with
  | false => exact wellBuilt_unchecked codec env config
  | true =>
      rw [wellBuilt_checked]
      exact Nat.lt_iff_le_pred (Nat.two_pow_pos 8)

/-- The default backends and 255 peers, which are reached over TCP. -/
def crowded : DaemonConfig where
  policy := ⟨"lru"⟩
  backends := { DaemonConfig.default.backends with
    remote := some {
      enabled := true
      transport := "tcp"
      peers := (List.range 255).map fun host => "10.0.0." ++ toString host ++ ":9200"
      maxPagesPerPeer := DaemonConfig.defaultMaxPages } }

/-- Every memory server answers, and there are no RDMA devices. -/
def allReachable : StartupEnv where
  rdmaAvailable := false
  localInit _ := true
  rdmaInit _ := none
  tcpInit _ := some (.start DaemonConfig.defaultMaxPages, [])

/-- The configuration is accepted, and all 257 backends can be initialised. With overflow checks
this is a panic; without them one backend is lost, and identifier 0 of the memory backend belongs
to the last peer. -/
theorem crowded_not_wellBuilt :
    crowded.validate = .ok () ∧ successes allReachable crowded = 257 ∧
      (∀ checked, ¬WellBuilt .literalLz4 checked allReachable crowded) ∧
      (Engine.new .literalLz4 true allReachable crowded).map (fun _ => ()) = .error .panic ∧
      ∃ engine built, Engine.new .literalLz4 false allReachable crowded = .ok (engine, built) ∧
        HashMap.size engine.backends = 256 ∧
        (built.head?.map fun entry =>
          (IdentifiedBackend.backendId entry.backend, entry.isTcp)) = some (0, false) ∧
        ((engine.backends.lookup 0).map fun backend => (Built.mk none backend).isTcp) =
          some true := by
  have count : successes allReachable crowded = 257 := by decide +kernel
  refine ⟨by decide, count, ?_, by decide +kernel, ?_⟩
  · intro checked
    cases checked with
    | false =>
        rw [wellBuilt_unchecked, count]
        decide
    | true =>
        rw [wellBuilt_checked, count]
        decide
  · have first : ((Engine.new .literalLz4 false allReachable crowded).toOption.map
        fun (engine, built) => ((built.head?.map fun entry =>
          (IdentifiedBackend.backendId entry.backend, entry.isTcp)),
          (engine.backends.lookup 0).map fun backend => (Built.mk none backend).isTcp)) =
        some (some (0, false), some true) := by decide +kernel
    cases started : Engine.new .literalLz4 false allReachable crowded with
    | error halt =>
        rw [started] at first
        cases first
    | ok result =>
        obtain ⟨engine, built⟩ := result
        rw [started] at first
        simp only [Except.toOption, Option.map_some, Option.some.injEq, Prod.mk.injEq] at first
        refine ⟨engine, built, rfl, ?_, first.1, first.2⟩
        rw [size_of_new started, count]
        decide

end Duvm.Daemon
