import Duvm.Common.Page
import Duvm.Library.HashMap

/-!
# The RDMA memory server

`RdmaMemServer` of `duvm-backend-rdma/src/server.rs`: the event loop of `run`
with `init_resources` and `handle_connect`. One buffer is registered for all
clients. Every connection request draws the next piece of it, `pages_per_client`
pages long, from a counter which is never turned back; the piece is recorded
when the connection is accepted and forgotten when the client disconnects.

The outcomes of the calls into the verbs library are inputs. The arithmetic is
that of 64-bit words; a mapping ends before the last address.
-/

namespace Duvm

universe u

/-- Handshake data which the server sends in the private data of its accept message. -/
structure RdmaHandshake where
  rkey : UInt32
  addr : UInt64
  size : UInt64
deriving DecidableEq

/-- Resources allocated on the first connection. -/
structure ServerResources where
  buf : UInt64
  bufSize : UInt64
  rkey : UInt32

structure RdmaMemServer where
  maxPages : UInt64
  pagesPerClient : UInt64

inductive RdmaServerError where
  | outOfCapacity
  | createCqFailed
  | createQpFailed
  | acceptFailed
deriving DecidableEq

/-- Which of the calls into the verbs library succeed once a piece has been drawn. -/
structure ConnectFate where
  cqCreated : Bool
  qpCreated : Bool
  accepted : Bool

namespace RdmaMemServer

/-- The number of bytes in a number of pages, in 64 bits. -/
def bytes (pages : UInt64) : UInt64 := pages * UInt64.ofNat PAGE_SIZE

/-- `init_resources`, once the buffer is mapped and registered. -/
def initResources (server : RdmaMemServer) (buf : UInt64) (rkey : UInt32) : ServerResources :=
  ⟨buf, bytes server.maxPages, rkey⟩

/-- `handle_connect`: the handshake, and the counter after the draw. -/
def handleConnect (server : RdmaMemServer) (res : ServerResources) (nextClientOffset : UInt64)
    (fate : ConnectFate) : Except RdmaServerError RdmaHandshake × UInt64 :=
  let next := nextClientOffset + server.pagesPerClient
  if nextClientOffset + server.pagesPerClient > server.maxPages then (.error .outOfCapacity, next)
  else if !fate.cqCreated then (.error .createCqFailed, next)
  else if !fate.qpCreated then (.error .createQpFailed, next)
  else if !fate.accepted then (.error .acceptFailed, next)
  else
    (.ok ⟨res.rkey, res.buf + bytes nextClientOffset, bytes server.pagesPerClient⟩, next)

end RdmaMemServer

/-- What the loop of `run` keeps: `conn_slabs` has the address and the size of each client's
piece of the buffer. -/
structure ServerLoop (Conn : Type u) where
  server : RdmaMemServer
  resources : Option ServerResources
  nextClientOffset : UInt64
  connSlabs : HashMap Conn (UInt64 × UInt64)

namespace ServerLoop

open RdmaMemServer (bytes)

variable {Conn : Type u}

def start (Conn : Type u) (server : RdmaMemServer) : ServerLoop Conn := ⟨server, none, 0, ∅⟩

/-- The resources, set up at the first connection; without a mapping there are none. -/
def prepare (loop : ServerLoop Conn) (mapping : Option (UInt64 × UInt32)) :
    Option ServerResources :=
  match loop.resources with
  | some res => some res
  | none => mapping.map fun (buf, rkey) => loop.server.initResources buf rkey

variable [DecidableEq Conn]

/-- `RDMA_CM_EVENT_CONNECT_REQUEST`. -/
def connectRequest (loop : ServerLoop Conn) (conn : Conn) (mapping : Option (UInt64 × UInt32))
    (fate : ConnectFate) : Option RdmaHandshake × ServerLoop Conn :=
  match loop.prepare mapping with
  | none => (none, loop)
  | some res =>
      match loop.server.handleConnect res loop.nextClientOffset fate with
      | (.ok handshake, next) =>
          (some handshake,
            { loop with
              resources := some res
              nextClientOffset := next
              connSlabs := loop.connSlabs.insert conn (handshake.addr, handshake.size) })
      | (.error _, next) =>
          (none, { loop with resources := some res, nextClientOffset := next })

/-- `RDMA_CM_EVENT_DISCONNECTED`; the pages of the piece are released. -/
def disconnected (loop : ServerLoop Conn) (conn : Conn) :
    Option (UInt64 × UInt64) × ServerLoop Conn :=
  (loop.connSlabs.lookup conn, { loop with connSlabs := loop.connSlabs.erase conn })

/-- The mapping ends before the last address. -/
def Mapped (loop : ServerLoop Conn) (mapping : Option (UInt64 × UInt32)) : Prop :=
  ∀ mapped ∈ mapping, mapped.1.toNat + (bytes loop.server.maxPages).toNat < 2 ^ 64

instance (loop : ServerLoop Conn) (mapping : Option (UInt64 × UInt32)) :
    Decidable (loop.Mapped mapping) :=
  Option.decidableForallMem mapping

/-- Neither the size of the buffer nor the counter overflows at the next draw. -/
def Fits (loop : ServerLoop Conn) : Prop :=
  loop.server.maxPages.toNat * PAGE_SIZE < 2 ^ 64 ∧
    loop.nextClientOffset.toNat + loop.server.pagesPerClient.toNat < 2 ^ 64

instance (loop : ServerLoop Conn) : Decidable loop.Fits := inferInstanceAs (Decidable (_ ∧ _))

end ServerLoop

/-- The addresses of a slab. -/
def slabRegion (slab : UInt64 × UInt64) : Region := ⟨slab.1.toNat, slab.2.toNat⟩

/-- The addresses which the server registers. -/
def ServerResources.region (res : ServerResources) : Region := ⟨res.buf.toNat, res.bufSize.toNat⟩

namespace ServerLoop

open RdmaMemServer (bytes)

variable {Conn : Type u}

/-- The slab begins at a page which the counter went through. -/
structure Piece (loop : ServerLoop Conn) (res : ServerResources) (slab : UInt64 × UInt64)
    (first : ℕ) : Prop where
  drawn : first + loop.server.pagesPerClient.toNat ≤ loop.nextClientOffset.toNat
  inside : first + loop.server.pagesPerClient.toNat ≤ loop.server.maxPages.toNat
  addr : slab.1.toNat = res.buf.toNat + first * PAGE_SIZE
  size : slab.2.toNat = loop.server.pagesPerClient.toNat * PAGE_SIZE

theorem toNat_bytes {pages limit : UInt64} (below : pages.toNat ≤ limit.toNat)
    (fits : limit.toNat * PAGE_SIZE < 2 ^ 64) : (bytes pages).toNat = pages.toNat * PAGE_SIZE := by
  have size : (UInt64.ofNat PAGE_SIZE).toNat = PAGE_SIZE := rfl
  have fewer : pages.toNat * PAGE_SIZE ≤ limit.toNat * PAGE_SIZE := Nat.mul_le_mul_right _ below
  rw [bytes, UInt64.toNat_mul, size]
  exact Nat.mod_eq_of_lt (Nat.lt_of_le_of_lt fewer fits)

variable {mapping : Option (UInt64 × UInt32)} {loop next : ServerLoop Conn}
  {res : ServerResources} {slab : UInt64 × UInt64} {handshake : Option RdmaHandshake}

theorem prepare_of_resources {old : ServerResources} (present : loop.resources = some old)
    (prepared : loop.prepare mapping = some res) :
    res = old := by
  simp only [prepare, present, Option.some.injEq] at prepared
  exact prepared.symm

theorem toNat_drawn (fits : loop.Fits) :
    (loop.nextClientOffset + loop.server.pagesPerClient).toNat =
      loop.nextClientOffset.toNat + loop.server.pagesPerClient.toNat := by
  rw [UInt64.toNat_add]
  exact Nat.mod_eq_of_lt fits.2

/-- The slab of an accepted request begins where the counter stood. -/
theorem piece_of_accepted (fits : loop.Fits) (sameServer : next.server = loop.server)
    (advanced : next.nextClientOffset = loop.nextClientOffset + loop.server.pagesPerClient)
    (sized : res.bufSize.toNat = loop.server.maxPages.toNat * PAGE_SIZE)
    (mapped : res.buf.toNat + res.bufSize.toNat < 2 ^ 64)
    (room : loop.nextClientOffset + loop.server.pagesPerClient ≤ loop.server.maxPages) :
    next.Piece res
      (res.buf + bytes loop.nextClientOffset, bytes loop.server.pagesPerClient)
      loop.nextClientOffset.toNat := by
  have drawn := toNat_drawn fits
  have enough := UInt64.le_iff_toNat_le.mp room
  have starts : (bytes loop.nextClientOffset).toNat = loop.nextClientOffset.toNat * PAGE_SIZE :=
    toNat_bytes (by omega) fits.1
  have covered : loop.nextClientOffset.toNat * PAGE_SIZE ≤
      loop.server.maxPages.toNat * PAGE_SIZE := Nat.mul_le_mul_right _ (by omega)
  constructor
  · rw [sameServer, advanced, drawn]
  · rw [sameServer, ← drawn]
    exact enough
  · rw [UInt64.toNat_add, starts]
    apply Nat.mod_eq_of_lt
    omega
  · rw [sameServer]
    exact toNat_bytes (by omega) fits.1

/-- A slab stays a piece of the buffer while the counter advances. -/
theorem Piece.advance {first : ℕ} (piece : loop.Piece res slab first)
    (sameServer : next.server = loop.server)
    (advanced : loop.nextClientOffset.toNat ≤ next.nextClientOffset.toNat) :
    next.Piece res slab first :=
  ⟨sameServer ▸ piece.drawn.trans advanced, sameServer ▸ piece.inside, piece.addr,
    sameServer ▸ piece.size⟩

theorem Piece.within {first : ℕ} (piece : loop.Piece res slab first)
    (sized : res.bufSize.toNat = loop.server.maxPages.toNat * PAGE_SIZE) :
    (slabRegion slab).Within res.region := by
  have inside := Nat.mul_le_mul_right PAGE_SIZE piece.inside
  rw [Nat.add_mul] at inside
  simp only [Region.Within, slabRegion, ServerResources.region, piece.addr, piece.size, sized]
  omega

/-- A piece which the counter had passed ends before the one drawn next. -/
theorem Piece.apart {drawnSlab : UInt64 × UInt64} {first : ℕ} (piece : loop.Piece res slab first)
    (drawn : next.Piece res drawnSlab loop.nextClientOffset.toNat) :
    (slabRegion slab).Apart (slabRegion drawnSlab) := by
  have before := Nat.mul_le_mul_right PAGE_SIZE piece.drawn
  rw [Nat.add_mul] at before
  apply Or.inl
  simp only [slabRegion, piece.addr, piece.size, drawn.addr]
  omega

/-- The slab is a piece of the buffer which the server registered. -/
def Carved (loop : ServerLoop Conn) (slab : UInt64 × UInt64) : Prop :=
  ∃ res first, loop.resources = some res ∧ loop.Piece res slab first

variable [DecidableEq Conn]

/-- The recorded slabs are pieces of the registered buffer and do not overlap. -/
structure Divided (loop : ServerLoop Conn) : Prop where
  buffer : ∀ res, loop.resources = some res →
    res.bufSize.toNat = loop.server.maxPages.toNat * PAGE_SIZE ∧
      res.buf.toNat + res.bufSize.toNat < 2 ^ 64
  carved : ∀ conn slab, loop.connSlabs.lookup conn = some slab → loop.Carved slab
  apart : ∀ conn other slab otherSlab, conn ≠ other →
    loop.connSlabs.lookup conn = some slab → loop.connSlabs.lookup other = some otherSlab →
    (slabRegion slab).Apart (slabRegion otherSlab)

/-- What a connection request can lead to. -/
inductive Requested (loop : ServerLoop Conn) (conn : Conn)
    (mapping : Option (UInt64 × UInt32)) : Option RdmaHandshake → ServerLoop Conn → Prop
  | unprepared (missing : loop.prepare mapping = none) : Requested loop conn mapping none loop
  | refused (res : ServerResources) (prepared : loop.prepare mapping = some res) :
      Requested loop conn mapping none
        { loop with
          resources := some res
          nextClientOffset := loop.nextClientOffset + loop.server.pagesPerClient }
  | accepted (res : ServerResources) (prepared : loop.prepare mapping = some res)
      (room : loop.nextClientOffset + loop.server.pagesPerClient ≤ loop.server.maxPages) :
      Requested loop conn mapping
        (some ⟨res.rkey, res.buf + bytes loop.nextClientOffset,
          bytes loop.server.pagesPerClient⟩)
        { loop with
          resources := some res
          nextClientOffset := loop.nextClientOffset + loop.server.pagesPerClient
          connSlabs := loop.connSlabs.insert conn
            (res.buf + bytes loop.nextClientOffset, bytes loop.server.pagesPerClient) }

theorem requested (loop : ServerLoop Conn) (conn : Conn) (mapping : Option (UInt64 × UInt32))
    (fate : ConnectFate) :
    Requested loop conn mapping (loop.connectRequest conn mapping fate).1
      (loop.connectRequest conn mapping fate).2 := by
  unfold connectRequest
  cases prepared : loop.prepare mapping with
  | none => exact .unprepared prepared
  | some res =>
      simp only [RdmaMemServer.handleConnect]
      by_cases full : loop.nextClientOffset + loop.server.pagesPerClient > loop.server.maxPages
      · simp only [full, if_true]
        exact .refused res prepared
      · rcases fate with ⟨_ | _, _ | _, _ | _⟩
        case true.true.true =>
          simp only [full, if_false]
          exact .accepted res prepared (UInt64.not_lt.mp full)
        all_goals
          simp only [full, if_false]
          exact .refused res prepared

variable {conn : Conn}

/-- The recorded slab is the one of the handshake. -/
theorem Requested.lookup_self {handshake : RdmaHandshake}
    (requested : loop.Requested conn mapping (some handshake) next) :
    next.connSlabs.lookup conn = some (handshake.addr, handshake.size) := by
  cases requested with
  | accepted _ _ _ => exact AList.lookup_insert _

theorem Requested.lookup_of_ne {other : Conn}
    (requested : loop.Requested conn mapping handshake next) (distinct : other ≠ conn) :
    next.connSlabs.lookup other = loop.connSlabs.lookup other := by
  cases requested with
  | unprepared _ | refused _ _ => rfl
  | accepted _ _ _ => exact AList.lookup_insert_ne distinct

theorem divided_start (server : RdmaMemServer) : (start Conn server).Divided := by
  constructor
  · intro res isResource
    cases isResource
  · intro conn slab isSlab
    cases isSlab
  · intro conn other slab otherSlab _ isSlab
    cases isSlab

theorem Divided.of_prepare (divided : loop.Divided) (mapped : loop.Mapped mapping)
    (fits : loop.Fits) (prepared : loop.prepare mapping = some res) :
    res.bufSize.toNat = loop.server.maxPages.toNat * PAGE_SIZE ∧
      res.buf.toNat + res.bufSize.toNat < 2 ^ 64 := by
  unfold prepare at prepared
  split at prepared
  · next existing isResource =>
      exact divided.buffer res (isResource.trans prepared)
  · rcases Option.map_eq_some_iff.mp prepared with ⟨⟨buf, rkey⟩, isMapping, rfl⟩
    exact ⟨toNat_bytes le_rfl fits.1, mapped (buf, rkey) isMapping⟩

/-- A request leaves every piece a piece of the same buffer. -/
theorem Carved.requested (carved : loop.Carved slab) (fits : loop.Fits)
    (requested : loop.Requested conn mapping handshake next) : next.Carved slab := by
  have advanced : loop.nextClientOffset.toNat ≤
      (loop.nextClientOffset + loop.server.pagesPerClient).toNat :=
    toNat_drawn fits ▸ Nat.le_add_right _ _
  rcases carved with ⟨old, first, isResource, piece⟩
  cases requested with
  | unprepared _ => exact ⟨old, first, isResource, piece⟩
  | refused res prepared | accepted res prepared room =>
      rcases prepare_of_resources isResource prepared with rfl
      exact ⟨res, first, rfl, piece.advance rfl advanced⟩

/-- The slab of the handshake is a piece as well, apart from those drawn before. -/
theorem Divided.drawn (divided : loop.Divided) {handshake : RdmaHandshake} (fits : loop.Fits)
    (mapped : loop.Mapped mapping) (requested : loop.Requested conn mapping (some handshake) next) :
    next.Carved (handshake.addr, handshake.size) ∧
      ∀ slab, loop.Carved slab →
        (slabRegion slab).Apart (slabRegion (handshake.addr, handshake.size)) := by
  cases requested with
  | accepted res prepared room =>
      rcases divided.of_prepare mapped fits prepared with ⟨sized, ends⟩
      have piece : Piece { loop with
          nextClientOffset := loop.nextClientOffset + loop.server.pagesPerClient } res _ _ :=
        piece_of_accepted fits rfl rfl sized ends room
      refine ⟨⟨res, _, rfl, piece.advance rfl le_rfl⟩, ?_⟩
      rintro slab ⟨old, first, isResource, earlier⟩
      rcases prepare_of_resources isResource prepared with rfl
      exact earlier.apart piece

theorem Divided.requested (divided : loop.Divided) (fits : loop.Fits)
    (mapped : loop.Mapped mapping) (requested : loop.Requested conn mapping handshake next) :
    next.Divided := by
  have advance := fun other slab isSlab =>
    (divided.carved other slab isSlab).requested fits requested
  cases requested with
  | unprepared _ => exact divided
  | refused res prepared =>
      refine ⟨?_, advance, divided.apart⟩
      rintro found ⟨⟩
      exact divided.of_prepare mapped fits prepared
  | accepted res prepared room =>
      rcases divided.drawn fits mapped (.accepted res prepared room) with ⟨carved, behind⟩
      refine ⟨?_, ?_, ?_⟩
      · rintro found ⟨⟩
        exact divided.of_prepare mapped fits prepared
      · intro other slab isSlab
        rw [HashMap.lookup_insert_eq_ite] at isSlab
        split at isSlab
        · rcases isSlab with ⟨⟩
          exact carved
        · exact advance other slab isSlab
      · intro left right slab otherSlab distinct isSlab isOther
        rw [HashMap.lookup_insert_eq_ite] at isSlab isOther
        split at isSlab
        · next isConn =>
            subst isConn
            rw [if_neg (Ne.symm distinct)] at isOther
            rcases isSlab with ⟨⟩
            exact (behind otherSlab (divided.carved right otherSlab isOther)).symm
        · split at isOther
          · rcases isOther with ⟨⟩
            exact behind slab (divided.carved left slab isSlab)
          · exact divided.apart left right slab otherSlab distinct isSlab isOther

theorem lookup_of_disconnected {other : Conn}
    (found : (loop.disconnected conn).2.connSlabs.lookup other = some slab) :
    other ≠ conn ∧ loop.connSlabs.lookup other = some slab := by
  simp only [disconnected, HashMap.lookup_erase_eq_ite] at found
  split at found
  · cases found
  · next distinct => exact ⟨distinct, found⟩

theorem Carved.disconnected (carved : loop.Carved slab) (conn : Conn) :
    (loop.disconnected conn).2.Carved slab := by
  rcases carved with ⟨res, first, isResource, piece⟩
  exact ⟨res, first, isResource, piece.advance rfl le_rfl⟩

theorem Divided.disconnected (divided : loop.Divided) (conn : Conn) :
    (loop.disconnected conn).2.Divided := by
  refine ⟨divided.buffer, ?_, ?_⟩
  · intro other slab isSlab
    exact (divided.carved other slab (lookup_of_disconnected isSlab).2).disconnected conn
  · intro left right slab otherSlab distinct isSlab isOther
    exact divided.apart left right slab otherSlab distinct (lookup_of_disconnected isSlab).2
      (lookup_of_disconnected isOther).2

end ServerLoop

end Duvm
