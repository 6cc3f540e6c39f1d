import Duvm.Backend.RdmaServer
import Duvm.Library.Transition
import Mathlib.Algebra.Order.Ring.Nat

/-!
# The slabs of the RDMA memory server

The event loop of the server by itself: requests for a connection, each with the outcomes
of the calls into the verbs library, and disconnections. A request which comes as far as
`handle_connect` draws a piece of the buffer, whether or not it is accepted, and no piece
is drawn twice. So the slabs do not overlap, and a piece is lost with its client.
-/

namespace Duvm

universe u

/-- The events which the loop handles. -/
inductive SlabAction (Conn : Type u) where
  | connect (conn : Conn) (mapping : Option (UInt64 × UInt32)) (fate : ConnectFate)
  | disconnect (conn : Conn)

/-- The loop, with the last handshake sent to each client and the number of pieces which
were drawn and are nobody's. -/
structure SlabServer (Conn : Type u) where
  loop : ServerLoop Conn
  sent : Conn → Option RdmaHandshake
  spent : ℕ

namespace SlabServer

open Function (update)

variable {Conn : Type u}

def start (Conn : Type u) (server : RdmaMemServer) : SlabServer Conn :=
  ⟨.start Conn server, fun _ => none, 0⟩

/-- The clients with a slab. -/
def live (state : SlabServer Conn) : ℕ := HashMap.size state.loop.connSlabs

variable [DecidableEq Conn]

/-- One event. A new connection is not a live one, and the system maps no buffer up to the
last address. -/
def step (state : SlabServer Conn) : SlabAction Conn → Option (SlabServer Conn)
  | .connect conn mapping fate =>
      if conn ∉ state.loop.connSlabs ∧ state.loop.Mapped mapping then
        match state.loop.connectRequest conn mapping fate with
        | (some handshake, loop) =>
            some { state with loop, sent := update state.sent conn (some handshake) }
        | (none, loop) =>
            if (state.loop.prepare mapping).isSome then
              some { state with loop, spent := state.spent + 1 }
            else some { state with loop }
      else none
  | .disconnect conn =>
      match state.loop.disconnected conn with
      | (some _, loop) => some { state with loop, spent := state.spent + 1 }
      | (none, loop) => some { state with loop }

/-- The requests for a connection among the events. -/
def connects (actions : List (SlabAction Conn)) : ℕ :=
  actions.countP fun
    | .connect .. => true
    | .disconnect _ => false

/-- What an event leads to. -/
inductive Stepped (state : SlabServer Conn) : SlabAction Conn → SlabServer Conn → Prop
  | unprepared {conn : Conn} {mapping : Option (UInt64 × UInt32)} {fate : ConnectFate} :
      Stepped state (.connect conn mapping fate) state
  | refused {conn : Conn} {mapping : Option (UInt64 × UInt32)} {fate : ConnectFate}
      (res : ServerResources) (mapped : state.loop.Mapped mapping)
      (prepared : state.loop.prepare mapping = some res) :
      Stepped state (.connect conn mapping fate)
        { state with
          loop := { state.loop with
            resources := some res
            nextClientOffset :=
              state.loop.nextClientOffset + state.loop.server.pagesPerClient }
          spent := state.spent + 1 }
  | accepted {conn : Conn} {mapping : Option (UInt64 × UInt32)} {fate : ConnectFate}
      {loop : ServerLoop Conn} {handshake : RdmaHandshake} (fresh : conn ∉ state.loop.connSlabs)
      (mapped : state.loop.Mapped mapping)
      (requested : state.loop.Requested conn mapping (some handshake) loop) :
      Stepped state (.connect conn mapping fate)
        { state with loop, sent := update state.sent conn (some handshake) }
  | released {conn : Conn} (present : conn ∈ state.loop.connSlabs) :
      Stepped state (.disconnect conn)
        { state with loop := (state.loop.disconnected conn).2, spent := state.spent + 1 }
  | ignored {conn : Conn} (absent : conn ∉ state.loop.connSlabs) :
      Stepped state (.disconnect conn) state

variable {action : SlabAction Conn} {server : RdmaMemServer} {state : SlabServer Conn}
  {actions : List (SlabAction Conn)}

variable {next : SlabServer Conn}

theorem stepped_of_step (stepped : state.step action = some next) :
    Stepped state action next := by
  cases action with
  | connect conn mapping fate =>
      simp only [step] at stepped
      split at stepped
      · next guard =>
          have requested := state.loop.requested conn mapping fate
          revert stepped requested
          cases state.loop.connectRequest conn mapping fate with
          | mk handshake loop =>
              intro stepped requested
              cases handshake with
              | some handshake =>
                  cases stepped
                  exact .accepted guard.1 guard.2 requested
              | none =>
                  cases requested with
                  | unprepared missing =>
                      simp only [missing, Option.isSome_none, Bool.false_eq_true,
                        if_false] at stepped
                      cases stepped
                      exact .unprepared
                  | refused res prepared =>
                      simp only [prepared, Option.isSome_some, if_true] at stepped
                      cases stepped
                      exact .refused res guard.2 prepared
      · cases stepped
  | disconnect conn =>
      by_cases present : conn ∈ state.loop.connSlabs
      · rcases HashMap.exists_lookup_of_mem present with ⟨slab, found⟩
        simp only [step, ServerLoop.disconnected, found] at stepped
        cases stepped
        exact .released present
      · simp only [step, ServerLoop.disconnected, AList.lookup_eq_none.mpr present,
          HashMap.erase_of_notMem present] at stepped
        cases stepped
        exact .ignored present

/-- The counter has gone through the pieces of the live clients and those which are lost. -/
structure Drawn (server : RdmaMemServer) (state : SlabServer Conn) : Prop where
  sameServer : state.loop.server = server
  counter : state.loop.nextClientOffset.toNat =
    (state.live + state.spent) * server.pagesPerClient.toNat % 2 ^ 64

omit [DecidableEq Conn] in
theorem drawn_start (server : RdmaMemServer) : (start Conn server).Drawn server :=
  ⟨rfl, by simp [start, ServerLoop.start, live]⟩

omit [DecidableEq Conn] in
/-- One more piece is drawn. -/
theorem Drawn.advance (drawn : state.Drawn server)
    (sameServer : next.loop.server = state.loop.server)
    (advanced : next.loop.nextClientOffset =
      state.loop.nextClientOffset + state.loop.server.pagesPerClient)
    (pieces : next.live + next.spent = state.live + state.spent + 1) : next.Drawn server := by
  refine ⟨sameServer.trans drawn.sameServer, ?_⟩
  rw [advanced, UInt64.toNat_add, drawn.counter, drawn.sameServer, pieces, Nat.mod_add_mod,
    Nat.succ_mul]

theorem live_insert {conn : Conn} (fresh : conn ∉ state.loop.connSlabs)
    {mapping : Option (UInt64 × UInt32)} {handshake : RdmaHandshake} {loop : ServerLoop Conn}
    (requested : state.loop.Requested conn mapping (some handshake) loop) :
    HashMap.size loop.connSlabs = state.live + 1 := by
  cases requested with
  | accepted _ _ _ => exact HashMap.size_insert_of_notMem _ fresh

theorem Drawn.step (drawn : state.Drawn server) (stepped : state.step action = some next) :
    next.Drawn server := by
  cases stepped_of_step stepped with
  | unprepared => exact drawn
  | refused res mapped prepared => exact drawn.advance rfl rfl rfl
  | accepted fresh mapped requested =>
      have more := live_insert fresh requested
      cases requested with
      | accepted _ _ _ =>
          refine drawn.advance rfl rfl ?_
          simp only [live] at more ⊢
          omega
  | @released conn present =>
      have fewer := HashMap.size_erase_of_mem present
      refine ⟨drawn.sameServer, ?_⟩
      have same : HashMap.size (state.loop.connSlabs.erase conn) + (state.spent + 1) =
          state.live + state.spent := by
        simp only [live]
        omega
      simp only [live, ServerLoop.disconnected]
      rw [same]
      exact drawn.counter
  | ignored _ => exact drawn

theorem drawn_of_run (reached : Transition.run step (start Conn server) actions = some state) :
    state.Drawn server :=
  Transition.run_invariant (drawn_start server) (fun _ _ _ drawn stepped => drawn.step stepped)
    reached

/-- The capacity check of the next request lets it pass, whatever comes after the check. -/
def CapacityAccepts (loop : ServerLoop Conn) : Prop :=
  ∀ res fate, (loop.server.handleConnect res loop.nextClientOffset fate).1 ≠ .error .outOfCapacity

omit [DecidableEq Conn] in
theorem capacityAccepts_iff_le (loop : ServerLoop Conn) :
    CapacityAccepts loop ↔
      loop.nextClientOffset + loop.server.pagesPerClient ≤ loop.server.maxPages := by
  constructor
  · intro accepts
    by_contra full
    apply accepts ⟨0, 0, 0⟩ ⟨true, true, true⟩
    simp [RdmaMemServer.handleConnect, UInt64.not_le.mp full]
  · intro room res fate
    have notFull : ¬loop.nextClientOffset + loop.server.pagesPerClient > loop.server.maxPages :=
      UInt64.not_lt.mpr room
    rcases fate with ⟨_ | _, _ | _, _ | _⟩
    all_goals simp [RdmaMemServer.handleConnect, notFull]

/-- The next request passes the capacity check if there is room behind the pieces of the live
clients and of all former ones. As long as there are no former ones, that is room for one more
client. -/
theorem capacityAccepts_iff
    (reached : Transition.run step (start Conn server) actions = some state) :
    (CapacityAccepts state.loop ↔
      (state.live + state.spent + 1) * server.pagesPerClient.toNat % 2 ^ 64 ≤
        server.maxPages.toNat) ∧
    (state.spent = 0 → (state.live + 1) * server.pagesPerClient.toNat ≤ server.maxPages.toNat →
      CapacityAccepts state.loop) := by
  have drawn := drawn_of_run reached
  have exactly : CapacityAccepts state.loop ↔
      (state.live + state.spent + 1) * server.pagesPerClient.toNat % 2 ^ 64 ≤
        server.maxPages.toNat := by
    rw [capacityAccepts_iff_le, UInt64.le_iff_toNat_le, UInt64.toNat_add, drawn.counter,
      drawn.sameServer, Nat.mod_add_mod, Nat.succ_mul]
  refine ⟨exactly, ?_⟩
  intro none room
  rw [exactly, none, Nat.add_zero]
  exact (Nat.mod_le _ _).trans room

def succeeds : ConnectFate := ⟨true, true, true⟩

/-- With a place for two clients, the second one is let in. -/
theorem second_client_accepted :
    ∃ state, Transition.run step (start ℕ ⟨2, 1⟩) [.connect 0 (some (4096, 7)) succeeds] =
        some state ∧ CapacityAccepts state.loop := by
  have ran : ∃ state, Transition.run step (start ℕ ⟨2, 1⟩)
        [.connect 0 (some (4096, 7)) succeeds] = some state ∧ state.spent = 0 ∧
      (state.live + 1) * (1 : UInt64).toNat ≤ (2 : UInt64).toNat := ⟨_, rfl, rfl, by decide⟩
  rcases ran with ⟨state, reached, unspent, room⟩
  exact ⟨state, reached, (capacityAccepts_iff reached).2 unspent room⟩

/-- With a place for one client, there is none once the client has left. -/
theorem next_client_refused :
    ∃ state, Transition.run step (start ℕ ⟨1, 1⟩)
        [.connect 0 (some (4096, 7)) succeeds, .disconnect 0] = some state ∧
      state.live = 0 ∧ ¬CapacityAccepts state.loop := by
  have ran : ∃ state, Transition.run step (start ℕ ⟨1, 1⟩)
        [.connect 0 (some (4096, 7)) succeeds, .disconnect 0] = some state ∧ state.live = 0 ∧
      ¬state.loop.nextClientOffset + state.loop.server.pagesPerClient ≤
        state.loop.server.maxPages := ⟨_, rfl, rfl, by decide⟩
  rcases ran with ⟨state, reached, nobody, full⟩
  exact ⟨state, reached, nobody, fun accepts => full ((capacityAccepts_iff_le _).mp accepts)⟩

/-- The slabs of the live clients are apart and in the registered buffer, each client was told
of its own, and a disconnection gives back nothing of another client. -/
structure Partitioned (state : SlabServer Conn) : Prop where
  inside : ∀ conn slab, state.loop.connSlabs.lookup conn = some slab →
    ∃ res, state.loop.resources = some res ∧
      res.region.size = state.loop.server.maxPages.toNat * PAGE_SIZE ∧
      (slabRegion slab).Within res.region
  apart : ∀ conn other slab otherSlab, conn ≠ other →
    state.loop.connSlabs.lookup conn = some slab →
    state.loop.connSlabs.lookup other = some otherSlab →
    (slabRegion slab).Apart (slabRegion otherSlab)
  told : ∀ conn slab, state.loop.connSlabs.lookup conn = some slab →
    ∃ handshake, state.sent conn = some handshake ∧ slab = (handshake.addr, handshake.size)
  released : ∀ conn other slab otherSlab, (state.loop.disconnected conn).1 = some slab →
    (state.loop.disconnected conn).2.connSlabs.lookup other = some otherSlab →
    (slabRegion slab).Apart (slabRegion otherSlab)

/-- The invariant of the loop as long as no number overflows. -/
structure Sound (server : RdmaMemServer) (state : SlabServer Conn) : Prop where
  drawn : state.Drawn server
  divided : state.loop.Divided
  told : ∀ conn slab, state.loop.connSlabs.lookup conn = some slab →
    ∃ handshake, state.sent conn = some handshake ∧ slab = (handshake.addr, handshake.size)

theorem sound_start (server : RdmaMemServer) : (start Conn server).Sound server :=
  ⟨drawn_start server, ServerLoop.divided_start server, fun _ _ isSlab => by cases isSlab⟩

theorem Sound.partitioned (sound : state.Sound server) : state.Partitioned := by
  refine ⟨?_, sound.divided.apart, sound.told, ?_⟩
  · intro conn slab isSlab
    rcases sound.divided.carved conn slab isSlab with ⟨res, first, isResource, piece⟩
    rcases sound.divided.buffer res isResource with ⟨sized, _⟩
    exact ⟨res, isResource, sized, piece.within sized⟩
  · intro conn other slab otherSlab isSlab isOther
    rcases ServerLoop.lookup_of_disconnected isOther with ⟨distinct, wasOther⟩
    exact sound.divided.apart conn other slab otherSlab distinct.symm isSlab wasOther

/-- A request leaves what the other clients were told; the one accepted is told of its slab. -/
theorem Sound.told_requested (sound : state.Sound server) {conn : Conn}
    {mapping : Option (UInt64 × UInt32)} {handshake : RdmaHandshake} {loop : ServerLoop Conn}
    (requested : state.loop.Requested conn mapping (some handshake) loop) (other : Conn)
    (slab : UInt64 × UInt64) (isSlab : loop.connSlabs.lookup other = some slab) :
    ∃ told, update state.sent conn (some handshake) other = some told ∧
      slab = (told.addr, told.size) := by
  by_cases same : other = conn
  · subst same
    rw [Function.update_self]
    exact ⟨handshake, rfl, Option.some.inj (isSlab.symm.trans requested.lookup_self)⟩
  · rw [Function.update_of_ne same]
    exact sound.told other slab ((requested.lookup_of_ne same).symm.trans isSlab)

theorem Sound.step (sound : state.Sound server)
    (fits : ∀ conn mapping fate, action = .connect conn mapping fate → state.loop.Fits)
    (stepped : state.step action = some next) : next.Sound server := by
  have drawn := sound.drawn.step stepped
  cases stepped_of_step stepped with
  | unprepared => exact sound
  | @refused conn mapping fate res mapped prepared =>
      have requested : state.loop.Requested conn mapping none _ := .refused res prepared
      exact ⟨drawn, sound.divided.requested (fits _ _ _ rfl) mapped requested, sound.told⟩
  | accepted fresh mapped requested =>
      exact ⟨drawn, sound.divided.requested (fits _ _ _ rfl) mapped requested,
        sound.told_requested requested⟩
  | @released conn present =>
      refine ⟨drawn, sound.divided.disconnected conn, ?_⟩
      intro other slab isSlab
      exact sound.told other slab (ServerLoop.lookup_of_disconnected isSlab).2
  | ignored _ => exact sound

/-- Every piece drawn was asked for. -/
theorem pieces_of_step (stepped : state.step action = some next) :
    next.live + next.spent ≤ state.live + state.spent + connects [action] := by
  cases stepped_of_step stepped with
  | unprepared => exact Nat.le_add_right _ _
  | refused res mapped prepared => exact le_rfl
  | accepted fresh mapped requested =>
      have more := live_insert fresh requested
      simp only [live, connects, List.countP_singleton, if_true] at more ⊢
      omega
  | @released conn present =>
      have fewer := HashMap.size_erase_of_mem present
      simp only [live, connects, List.countP_singleton, ServerLoop.disconnected] at fewer ⊢
      omega
  | ignored _ => exact Nat.le_add_right _ _

omit [DecidableEq Conn] in
/-- The next draw does not overflow if there are pages for one more piece. -/
theorem Drawn.fits (drawn : state.Drawn server)
    (mappable : server.maxPages.toNat * PAGE_SIZE < 2 ^ 64)
    (fewer : (state.live + state.spent + 1) * server.pagesPerClient.toNat < 2 ^ 64) :
    state.loop.Fits := by
  have counter := drawn.counter
  rw [Nat.succ_mul] at fewer
  rw [Nat.mod_eq_of_lt (by omega)] at counter
  refine ⟨drawn.sameServer ▸ mappable, ?_⟩
  rw [counter, drawn.sameServer]
  exact fewer

theorem sound_of_run {final : SlabServer Conn} (sound : state.Sound server)
    (mappable : server.maxPages.toNat * PAGE_SIZE < 2 ^ 64)
    (fewer : (state.live + state.spent + connects actions) * server.pagesPerClient.toNat < 2 ^ 64)
    (reached : Transition.run step state actions = some final) : final.Sound server := by
  induction actions generalizing state with
  | nil =>
      cases reached
      exact sound
  | cons action rest ih =>
      rw [Transition.run_cons, Option.bind_eq_some_iff] at reached
      rcases reached with ⟨next, stepped, continues⟩
      have split : connects (action :: rest) = connects [action] + connects rest :=
        @List.countP_append _ _ [action] rest
      rw [split] at fewer
      have later := sound.step ?_ stepped
      · apply ih later _ continues
        refine lt_of_le_of_lt (Nat.mul_le_mul_right _ ?_) fewer
        have drawn := pieces_of_step stepped
        omega
      · rintro conn mapping fate rfl
        apply sound.drawn.fits mappable
        refine lt_of_le_of_lt (Nat.mul_le_mul_right _ ?_) fewer
        have one : connects [SlabAction.connect conn mapping fate] = 1 := rfl
        omega

/-- Provided that the pages asked for and the size of the buffer in bytes stay below `2 ^ 64`,
the slabs partition a part of the buffer after every sequence of events. -/
theorem slabs_partitioned (fewer : connects actions * server.pagesPerClient.toNat < 2 ^ 64)
    (mappable : server.maxPages.toNat * PAGE_SIZE < 2 ^ 64)
    (reached : Transition.run step (start Conn server) actions = some state) :
    state.Partitioned := by
  apply Sound.partitioned
  apply sound_of_run (sound_start server) mappable _ reached
  have nothing : (start Conn server).live + (start Conn server).spent = 0 := rfl
  rw [nothing, Nat.zero_add]
  exact fewer

/-- Two clients, the first of which leaves. -/
theorem one_of_two_leaves :
    ∃ state, Transition.run step (start ℕ ⟨2, 1⟩)
        [.connect 0 (some (4096, 7)) succeeds, .connect 1 none succeeds, .disconnect 0] =
        some state ∧
      state.loop.connSlabs.lookup 1 = some (8192, 4096) ∧ state.Partitioned := by
  have ran : ∃ state, Transition.run step (start ℕ ⟨2, 1⟩)
        [.connect 0 (some (4096, 7)) succeeds, .connect 1 none succeeds, .disconnect 0] =
        some state ∧
      state.loop.connSlabs.lookup 1 = some (8192, 4096) := ⟨_, rfl, rfl⟩
  rcases ran with ⟨state, reached, isSlab⟩
  exact ⟨state, reached, isSlab, slabs_partitioned (by decide) (by decide) reached⟩

/-- With `2 ^ 52 + 1` pages, a buffer of one page is registered, and a client is told of two. -/
theorem slab_longer_than_buffer :
    ∃ state res slab, Transition.run step (start ℕ ⟨UInt64.ofNat (2 ^ 52 + 1), 2⟩)
        [.connect 0 (some (4096, 7)) succeeds] = some state ∧
      connects [SlabAction.connect 0 (some (4096, 7)) succeeds] *
        (2 : UInt64).toNat < 2 ^ 64 ∧
      state.loop.resources = some res ∧ state.loop.connSlabs.lookup 0 = some slab ∧
      ¬(slabRegion slab).Within res.region :=
  ⟨_, _, _, rfl, by decide, rfl, rfl, by decide⟩

end SlabServer

end Duvm
