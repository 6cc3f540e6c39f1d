import Duvm.Backend.Rdma
import Duvm.Backend.RdmaServer

/-!
# Clients of one RDMA memory server

The clients are RDMA backends, each with the `max_pages` of its own
configuration and the handshake which the server sent when it accepted the
connection. They access the server's memory without the server: the network
card carries out a transfer of a live connection when the page lies in the
registered region, which is the buffer of all clients together.

A transfer stays in the client's slab as long as `alloc_page` hands out slots
below the server's `pages_per_client` only. Nothing in the client compares the
two: `alloc_page` checks the client's own `max_pages`, and the size in the
handshake is not read.
-/

namespace Duvm

universe u

open RdmaBackend (remoteOffset)

/-- The page of a handle at the other end of the connection. -/
def RdmaState.page (state : RdmaState) (handle : PageHandle) : Region :=
  ⟨(state.remoteAddr + remoteOffset handle.offset).toNat, PAGE_SIZE⟩

def RdmaHandshake.region (handshake : RdmaHandshake) : Region :=
  slabRegion (handshake.addr, handshake.size)

/-- `RdmaBackend::init` with the handshake of an established connection. -/
def RdmaBackend.init (backendId : UInt8) (maxPages : UInt64) (handshake : RdmaHandshake)
    (remote : ByteMemory) : RdmaBackend :=
  ⟨backendId, maxPages, 0, some ⟨handshake.addr, remote⟩⟩

/-- A client with the handshake it received and the handles which it was given. -/
structure RdmaPeer where
  backend : RdmaBackend
  handshake : RdmaHandshake
  issued : List PageHandle

/-- A posted transfer: its page, and the slab granted to the client. -/
structure Transfer where
  page : Region
  granted : Region

structure RdmaFabric (Conn : Type u) where
  loop : ServerLoop Conn
  memory : ByteMemory
  peers : Conn → Option RdmaPeer
  posted : List Transfer

inductive FabricAction (Conn : Type u) where
  | connect (conn : Conn) (mapping : Option (UInt64 × UInt32)) (fate : ConnectFate)
      (established : Bool) (backendId : UInt8) (maxPages : UInt64)
  | disconnect (conn : Conn)
  | allocPage (conn : Conn)
  | freePage (conn : Conn) (handle : PageHandle)
  | storePage (conn : Conn) (handle : PageHandle) (data : PageBuffer)
  | loadPage (conn : Conn) (handle : PageHandle)

namespace RdmaFabric

open Function (update)

variable {Conn : Type u} [DecidableEq Conn]

def start (Conn : Type u) (server : RdmaMemServer) : RdmaFabric Conn :=
  ⟨.start Conn server, fun _ => 0, fun _ => none, []⟩

/-- The network card carries out a transfer. -/
def Delivers (fabric : RdmaFabric Conn) (conn : Conn) (page : Region) : Prop :=
  conn ∈ fabric.loop.connSlabs ∧ ∃ res ∈ fabric.loop.resources, page.Within res.region

instance (fabric : RdmaFabric Conn) (conn : Conn) (page : Region) :
    Decidable (fabric.Delivers conn page) :=
  inferInstanceAs (Decidable (_ ∧ ∃ res ∈ fabric.loop.resources, page.Within res.region))

/-- A request for a connection; the client keeps the connection when it is established there. -/
def connect (fabric : RdmaFabric Conn) (conn : Conn) (mapping : Option (UInt64 × UInt32))
    (fate : ConnectFate) (established : Bool) (backendId : UInt8) (maxPages : UInt64) :
    RdmaFabric Conn :=
  match fabric.loop.connectRequest conn mapping fate with
  | (none, loop) => { fabric with loop := loop }
  | (some handshake, loop) =>
      if established then
        { fabric with
          loop := loop
          peers := update fabric.peers conn
            (some ⟨.init backendId maxPages handshake fabric.memory, handshake, []⟩) }
      else { fabric with loop := loop }

/-- The end of a connection, at which the pages of the slab are given back to the system. -/
def disconnect (fabric : RdmaFabric Conn) (conn : Conn) : RdmaFabric Conn :=
  match fabric.loop.disconnected conn with
  | (none, loop) => { fabric with loop := loop }
  | (some slab, loop) =>
      { fabric with loop := loop, memory := fabric.memory.clear (slabRegion slab) }

def post (fabric : RdmaFabric Conn) (peer : RdmaPeer) (page : Region) : RdmaFabric Conn :=
  { fabric with posted := fabric.posted ++ [⟨page, peer.handshake.region⟩] }

def storePage (fabric : RdmaFabric Conn) (conn : Conn) (peer : RdmaPeer) (handle : PageHandle)
    (data : PageBuffer) : RdmaFabric Conn :=
  match peer.backend.state with
  | none => fabric
  | some state =>
      let after := RdmaBackend.rdmaWrite { state with remote := fabric.memory }
        (remoteOffset handle.offset) data
      let posted := fabric.post peer (state.page handle)
      if fabric.Delivers conn (state.page handle) then { posted with memory := after.remote }
      else posted

def loadPage (fabric : RdmaFabric Conn) (peer : RdmaPeer) (handle : PageHandle) :
    RdmaFabric Conn :=
  match peer.backend.state with
  | none => fabric
  | some state => fabric.post peer (state.page handle)

/-- One event of the server or one call of a client. Connections are told apart for good; a
client uses the handles which it was given, and a panic ends the run. -/
def step (fabric : RdmaFabric Conn) : FabricAction Conn → Option (RdmaFabric Conn)
  | .connect conn mapping fate established backendId maxPages =>
      if (fabric.peers conn).isNone ∧ conn ∉ fabric.loop.connSlabs ∧
          fabric.loop.Mapped mapping then
        some (fabric.connect conn mapping fate established backendId maxPages)
      else none
  | .disconnect conn => some (fabric.disconnect conn)
  | .allocPage conn =>
      match fabric.peers conn with
      | none => none
      | some peer =>
          match peer.backend.allocPage with
          | (.ok handle, backend) =>
              some { fabric with
                peers := update fabric.peers conn
                  (some { peer with backend := backend, issued := peer.issued ++ [handle] }) }
          | (.err _, _) => some fabric
          | (.panic, _) => none
  | .freePage conn handle =>
      match fabric.peers conn with
      | none => none
      | some peer =>
          if handle ∈ peer.issued then
            some { fabric with
              peers := update fabric.peers conn
                (some { peer with backend := (peer.backend.freePage handle).2 }) }
          else none
  | .storePage conn handle data =>
      match fabric.peers conn with
      | none => none
      | some peer =>
          if handle ∈ peer.issued then some (fabric.storePage conn peer handle data) else none
  | .loadPage conn handle =>
      match fabric.peers conn with
      | none => none
      | some peer => if handle ∈ peer.issued then some (fabric.loadPage peer handle) else none

/-- Every transfer posted so far lies in the slab granted to its client. -/
def Contained (fabric : RdmaFabric Conn) : Prop :=
  ∀ transfer ∈ fabric.posted, transfer.page.Within transfer.granted

/-- A store leaves the slab of every other live connection as it is. -/
def StoresIsolated (fabric : RdmaFabric Conn) : Prop :=
  ∀ conn handle data next, fabric.step (.storePage conn handle data) = some next →
    ∀ other slab, other ≠ conn → fabric.loop.connSlabs.lookup other = some slab →
      ByteMemory.AgreeOn (slabRegion slab) next.memory fabric.memory

/-- A page which is handed out has a slot of the slab, and no size overflows in the server. -/
def SlotInSlab (fabric : RdmaFabric Conn) : FabricAction Conn → Prop
  | .connect .. => fabric.loop.Fits
  | .allocPage conn => ∀ peer ∈ fabric.peers conn, peer.backend.pagesUsed < peer.backend.maxPages →
      peer.backend.pagesUsed < fabric.loop.server.pagesPerClient
  | _ => True

instance (fabric : RdmaFabric Conn) (action : FabricAction Conn) :
    Decidable (fabric.SlotInSlab action) :=
  match action with
  | .connect .. => inferInstanceAs (Decidable fabric.loop.Fits)
  | .allocPage conn => Option.decidableForallMem (fabric.peers conn)
  | .disconnect _ | .freePage .. | .storePage .. | .loadPage .. => isTrue trivial

/-- A client's connection: a piece of the buffer, and handles with slots inside it. -/
structure Granted (loop : ServerLoop Conn) (peer : RdmaPeer) : Prop where
  carved : loop.Carved (peer.handshake.addr, peer.handshake.size)
  connected : ∃ state, peer.backend.state = some state ∧ state.remoteAddr = peer.handshake.addr
  slots : ∀ handle ∈ peer.issued, handle.offset.toNat < loop.server.pagesPerClient.toNat

structure Sound (fabric : RdmaFabric Conn) : Prop where
  divided : fabric.loop.Divided
  granted : ∀ conn peer, fabric.peers conn = some peer → Granted fabric.loop peer
  recorded : ∀ conn peer slab, fabric.peers conn = some peer →
    fabric.loop.connSlabs.lookup conn = some slab →
    slab = (peer.handshake.addr, peer.handshake.size)
  contained : fabric.Contained

variable {peer : RdmaPeer} {conn : Conn} {fabric : RdmaFabric Conn}

variable {handle : PageHandle}

/-- The page of a slot inside the slab, without overflow. -/
theorem Granted.page_within {loop : ServerLoop Conn} (divided : loop.Divided)
    (granted : Granted loop peer) {state : RdmaState} (isState : peer.backend.state = some state)
    (isIssued : handle ∈ peer.issued) :
    (state.page handle).Within peer.handshake.region := by
  rcases granted.connected with ⟨found, isFound, base⟩
  rcases Option.some.inj (isFound.symm.trans isState) with rfl
  rcases granted.carved with ⟨res, first, isResource, piece⟩
  rcases divided.buffer res isResource with ⟨sized, ends⟩
  have page : PAGE_SIZE = 4096 := rfl
  have size : (UInt64.ofNat 4096).toNat = 4096 := rfl
  have slot := granted.slots handle isIssued
  have inside := piece.inside
  have addr := piece.addr
  have slabSize := piece.size
  simp only [page] at sized addr slabSize
  simp only [Region.Within, RdmaState.page, RdmaHandshake.region, slabRegion, base, remoteOffset,
    UInt64.toNat_add, UInt64.toNat_mul, size, page]
  omega

theorem sound_start (server : RdmaMemServer) : (start Conn server).Sound :=
  ⟨ServerLoop.divided_start server, nofun, nofun, nofun⟩

theorem Granted.requested {loop next : ServerLoop Conn} (granted : Granted loop peer)
    {mapping : Option (UInt64 × UInt32)} {handshake : Option RdmaHandshake} (fits : loop.Fits)
    (requested : loop.Requested conn mapping handshake next) : Granted next peer := by
  have sameServer : next.server = loop.server := by cases requested <;> rfl
  exact ⟨granted.carved.requested fits requested, granted.connected,
    sameServer ▸ granted.slots⟩

/-- Changing one client keeps the fabric sound when the client stays as the server knows it. -/
theorem Sound.change (sound : fabric.Sound) {changed : RdmaPeer}
    (isPeer : fabric.peers conn = some peer) (sameHandshake : changed.handshake = peer.handshake)
    (granted : Granted fabric.loop changed) :
    Sound { fabric with peers := update fabric.peers conn (some changed) } := by
  refine ⟨sound.divided, ?_, ?_, sound.contained⟩
  · intro other found isFound
    by_cases same : other = conn
    · subst same
      simp only [Function.update_self, Option.some.injEq] at isFound
      exact isFound ▸ granted
    · simp only [Function.update_of_ne same] at isFound
      exact sound.granted other found isFound
  · intro other found slab isFound isSlab
    by_cases same : other = conn
    · subst same
      simp only [Function.update_self, Option.some.injEq] at isFound
      rw [← isFound, sameHandshake]
      exact sound.recorded other peer slab isPeer isSlab
    · simp only [Function.update_of_ne same] at isFound
      exact sound.recorded other found slab isFound isSlab

theorem Sound.connect (sound : fabric.Sound) {mapping : Option (UInt64 × UInt32)}
    (fate : ConnectFate) (established : Bool) (backendId : UInt8) (maxPages : UInt64)
    (absent : fabric.peers conn = none) (mapped : fabric.loop.Mapped mapping)
    (fits : fabric.loop.Fits) :
    (fabric.connect conn mapping fate established backendId maxPages).Sound := by
  have requested := fabric.loop.requested conn mapping fate
  unfold RdmaFabric.connect
  rcases answer : fabric.loop.connectRequest conn mapping fate with ⟨handshake, loop⟩
  rw [answer] at requested
  have divided : loop.Divided := sound.divided.requested fits mapped requested
  have others : ∀ other peer, fabric.peers other = some peer → other ≠ conn := by
    rintro other peer isPeer rfl
    rw [absent] at isPeer
    cases isPeer
  have before : Sound { fabric with loop := loop } := by
    refine ⟨divided, ?_, ?_, sound.contained⟩
    · intro other peer isPeer
      exact (sound.granted other peer isPeer).requested fits requested
    · intro other peer slab isPeer isSlab
      have distinct := others other peer isPeer
      exact sound.recorded other peer slab isPeer
        ((requested.lookup_of_ne distinct).symm.trans isSlab)
  cases handshake with
  | none => exact before
  | some handshake =>
      cases established with
      | false => exact before
      | true =>
          have carved := (sound.divided.drawn fits mapped requested).1
          refine ⟨divided, ?_, ?_, sound.contained⟩
          · intro other peer isPeer
            by_cases same : other = conn
            · subst same
              simp only [if_true, Function.update_self, Option.some.injEq] at isPeer
              subst isPeer
              exact ⟨carved, ⟨_, rfl, rfl⟩, nofun⟩
            · simp only [if_true, Function.update_of_ne same] at isPeer
              exact before.granted other peer isPeer
          · intro other peer slab isPeer isSlab
            by_cases same : other = conn
            · subst same
              simp only [if_true, Function.update_self, Option.some.injEq] at isPeer
              subst isPeer
              exact Option.some.inj (isSlab.symm.trans requested.lookup_self)
            · simp only [if_true, Function.update_of_ne same] at isPeer
              exact before.recorded other peer slab isPeer isSlab

theorem Sound.disconnect (sound : fabric.Sound) (conn : Conn) :
    (fabric.disconnect conn).Sound := by
  have divided := sound.divided.disconnected conn
  have after : ∀ memory : ByteMemory,
      Sound { fabric with loop := (fabric.loop.disconnected conn).2, memory := memory } := by
    intro memory
    refine ⟨divided, ?_, ?_, sound.contained⟩
    · intro other peer isPeer
      have granted := sound.granted other peer isPeer
      exact ⟨granted.carved.disconnected conn, granted.connected, granted.slots⟩
    · intro other peer slab isPeer isSlab
      exact sound.recorded other peer slab isPeer (ServerLoop.lookup_of_disconnected isSlab).2
  unfold RdmaFabric.disconnect
  rcases answer : fabric.loop.disconnected conn with ⟨slab, loop⟩
  rw [answer] at after
  cases slab with
  | none => exact after fabric.memory
  | some slab => exact after _

theorem Sound.alloc (sound : fabric.Sound) {backend : RdmaBackend}
    (isPeer : fabric.peers conn = some peer) (inSlab : fabric.SlotInSlab (.allocPage conn))
    (allocated : peer.backend.allocPage = (.ok handle, backend)) :
    Sound { fabric with
      peers := update fabric.peers conn
        (some { peer with backend := backend, issued := peer.issued ++ [handle] }) } := by
  have granted := sound.granted conn peer isPeer
  unfold RdmaBackend.allocPage at allocated
  split at allocated
  · simp at allocated
  · next room =>
      simp only at allocated
      split at allocated
      · next created isNew =>
          simp only [Prod.mk.injEq, Outcome.ok.injEq] at allocated
          rcases allocated with ⟨rfl, rfl⟩
          have slot := inSlab peer isPeer (UInt64.not_le.mp room)
          refine sound.change isPeer rfl ⟨granted.carved, granted.connected, ?_⟩
          intro issued isIssued
          rcases List.mem_append.mp isIssued with old | new
          · exact granted.slots issued old
          · rw [List.mem_singleton.mp new, PageHandle.offset_of_new isNew]
            exact UInt64.lt_iff_toNat_lt.mp slot
      · simp at allocated

theorem Sound.post (sound : fabric.Sound) {page : Region}
    (within : page.Within peer.handshake.region) :
    (fabric.post peer page).Sound := by
  refine ⟨sound.divided, sound.granted, sound.recorded, ?_⟩
  intro transfer isPosted
  rcases List.mem_append.mp isPosted with old | new
  · exact sound.contained transfer old
  · rw [List.mem_singleton.mp new]
    exact within

theorem Sound.transfer (sound : fabric.Sound) (isPeer : fabric.peers conn = some peer)
    {state : RdmaState} (isState : peer.backend.state = some state)
    (isIssued : handle ∈ peer.issued) : (fabric.post peer (state.page handle)).Sound :=
  sound.post ((sound.granted conn peer isPeer).page_within sound.divided isState isIssued)

theorem Sound.stepped {next : RdmaFabric Conn} {action : FabricAction Conn} (sound : fabric.Sound)
    (inSlab : fabric.SlotInSlab action) (stepped : fabric.step action = some next) :
    next.Sound := by
  cases action with
  | connect conn mapping fate established backendId maxPages =>
      simp only [step, Option.ite_none_right_eq_some, Option.some.injEq] at stepped
      rcases stepped with ⟨⟨absent, -, mapped⟩, rfl⟩
      exact sound.connect fate established backendId maxPages (Option.isNone_iff_eq_none.mp absent)
        mapped inSlab
  | disconnect conn =>
      simp only [step, Option.some.injEq] at stepped
      exact stepped ▸ sound.disconnect conn
  | allocPage conn =>
      simp only [step] at stepped
      split at stepped
      · cases stepped
      · next peer isPeer =>
          split at stepped
          · next handle backend allocated =>
              rcases Option.some.inj stepped with rfl
              exact sound.alloc isPeer inSlab allocated
          · exact Option.some.inj stepped ▸ sound
          · cases stepped
  | freePage conn handle =>
      simp only [step] at stepped
      split at stepped
      · cases stepped
      · next peer isPeer =>
          simp only [Option.ite_none_right_eq_some, Option.some.injEq] at stepped
          rcases stepped with ⟨-, rfl⟩
          have granted := sound.granted conn peer isPeer
          exact sound.change isPeer rfl ⟨granted.carved, granted.connected, granted.slots⟩
  | storePage conn handle data =>
      simp only [step] at stepped
      split at stepped
      · cases stepped
      · next peer isPeer =>
          simp only [Option.ite_none_right_eq_some, Option.some.injEq] at stepped
          rcases stepped with ⟨isIssued, rfl⟩
          unfold RdmaFabric.storePage
          split
          · exact sound
          · next state isState =>
              have posted := sound.transfer isPeer isState isIssued
              simp only
              split
              · exact ⟨posted.divided, posted.granted, posted.recorded, posted.contained⟩
              · exact posted
  | loadPage conn handle =>
      simp only [step] at stepped
      split at stepped
      · cases stepped
      · next peer isPeer =>
          simp only [Option.ite_none_right_eq_some, Option.some.injEq] at stepped
          rcases stepped with ⟨isIssued, rfl⟩
          unfold RdmaFabric.loadPage
          split
          · exact sound
          · next state isState => exact sound.transfer isPeer isState isIssued

/-- The page of a store lies in the client's own slab, which is apart from the others. -/
theorem Sound.storesIsolated (sound : fabric.Sound) :
    fabric.StoresIsolated := by
  intro conn handle data next stepped other slab distinct isSlab
  simp only [step] at stepped
  split at stepped
  · cases stepped
  · next peer isPeer =>
      simp only [Option.ite_none_right_eq_some, Option.some.injEq] at stepped
      rcases stepped with ⟨isIssued, rfl⟩
      unfold RdmaFabric.storePage
      split
      · exact .refl _
      · next state isState =>
          simp only
          split
          · next delivered =>
              rcases HashMap.exists_lookup_of_mem delivered.1 with ⟨own, isOwn⟩
              have recorded := sound.recorded conn peer own isPeer isOwn
              have within := (sound.granted conn peer isPeer).page_within sound.divided isState
                isIssued
              have apart := sound.divided.apart conn other own slab (Ne.symm distinct) isOwn isSlab
              rw [recorded] at apart
              apply ByteMemory.write_agreeOn
              rw [PageBuffer.length_toList]
              exact apart.of_within within
          · exact .refl _

/-- As long as no client is handed a slot beyond the server's `pages_per_client`, transfers stay
in the slab granted to their client and stores leave the slabs of the others alone. -/
theorem contained_of_slotInSlab (server : RdmaMemServer) (actions : List (FabricAction Conn))
    (inSlab : Transition.Along step SlotInSlab (start Conn server) actions) :
    Transition.Throughout step (fun fabric => fabric.Contained ∧ fabric.StoresIsolated)
      (start Conn server) actions := by
  have sound : Transition.Throughout step Sound (start Conn server) actions := by
    refine Transition.throughout_of_along (sound_start server) ?_ inSlab
    intro fabric action next sound slot stepped
    exact sound.stepped slot stepped
  intro before reached isPrefix ran
  have here := sound before reached isPrefix ran
  exact ⟨here.contained, here.storesIsolated⟩

/-- A server with two pages, one for each client. -/
def twoPages : RdmaMemServer := ⟨2, 1⟩

/-- A client whose connection is accepted and established; the buffer is at address 65536. -/
def accept (conn : ℕ) (maxPages : UInt64) : FabricAction ℕ :=
  .connect conn (some (65536, 7)) ⟨true, true, true⟩ true 1 maxPages

/-- Each client is configured with the page which the server has for it. -/
def agreedSizes : List (FabricAction ℕ) :=
  [accept 0 1, accept 1 1, .allocPage 0, .allocPage 0, .allocPage 1,
    .storePage 0 (RdmaClient.slotHandle 0) (.filled 1), .loadPage 1 (RdmaClient.slotHandle 0)]

theorem agreedSizes_contained :
    ∃ final, Transition.run step (start ℕ twoPages) agreedSizes = some final ∧
      final.posted = [⟨⟨65536, 4096⟩, ⟨65536, 4096⟩⟩, ⟨⟨69632, 4096⟩, ⟨69632, 4096⟩⟩] ∧
      Transition.Throughout step (fun fabric => fabric.Contained ∧ fabric.StoresIsolated)
        (start ℕ twoPages) agreedSizes := by
  refine ⟨_, rfl, rfl, contained_of_slotInSlab twoPages agreedSizes ?_⟩
  decide

/-- The first client is configured with both pages. -/
def greedyClient : List (FabricAction ℕ) :=
  [accept 0 2, accept 1 1, .allocPage 0, .allocPage 0]

/-- Its second page is the page of the other client. -/
theorem store_in_foreign_slab :
    ∃ reached final, Transition.run step (start ℕ twoPages) greedyClient = some reached ∧
      reached.step (.storePage 0 (RdmaClient.slotHandle 1) (.filled 1)) = some final ∧
      ¬ final.Contained ∧ ¬ reached.StoresIsolated := by
  refine ⟨_, _, rfl, rfl, ?_, ?_⟩
  · intro contained
    exact absurd (contained _ (List.mem_singleton.mpr rfl)) (by decide)
  · intro isolated
    have same := isolated 0 (RdmaClient.slotHandle 1) (.filled 1) _ rfl 1 (69632, 4096)
      (by decide) rfl 69632 ⟨by decide, by decide⟩
    exact absurd same (by decide)

end RdmaFabric

end Duvm
