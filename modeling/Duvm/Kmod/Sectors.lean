import Duvm.Kmod.Fallback
import Duvm.Library.Log

/-!
# The fallback store as a disk of sectors

Without a daemon, `duvm_queue_rq` serves requests from `duvm_page_store`. A
disk answers a READ with what was last written to each sector, and with zeros
if nothing was. The store keeps a page for eight sectors, and places a segment
in it by `bv_offset`, the offset of the segment in the memory of the caller,
where a disk would place it by its sector; and a page which is new in the store
has been allocated without being cleared.

The store is a disk for requests whose segments lie in the memory of the caller
as their sectors lie in the page, except for sectors which were never written
in a page in which others were.
-/

namespace Duvm.Kmod

open Function (update)
open Transition

/-- The sectors, `count` many from the given one on, whose contents are in the bytes. -/
def sectorsFrom (sector : UInt64) (bytes : List UInt8) : ℕ → List (UInt64 × List UInt8)
  | 0 => []
  | count + 1 =>
      (sector, bytes.take DUVM_SECTOR_SIZE) ::
        sectorsFrom (sector + 1) (bytes.drop DUVM_SECTOR_SIZE) count

/-- The sectors of a request with their contents. -/
def Request.sectors (rq : Request) : List (UInt64 × List UInt8) :=
  sectorsFrom rq.pos rq.bytes (rq.bytes.length / DUVM_SECTOR_SIZE)

/-- The content which was last written to a sector. -/
def lastWritten (written : List (UInt64 × List UInt8)) (sector : UInt64) : Option (List UInt8) :=
  (Log.last? (fun entry => entry.1 = sector) written).map Prod.snd

def zeroSector : List UInt8 := List.replicate DUVM_SECTOR_SIZE 0

/-- What a disk returns for a sector. -/
def diskContent (written : List (UInt64 × List UInt8)) (sector : UInt64) : List UInt8 :=
  (lastWritten written sector).getD zeroSector

/-- Where a sector is in its page. -/
def sectorOffset (sector : UInt64) : ℕ := DUVM_SECTOR_SIZE * (sector.toNat % DUVM_PAGE_SECTORS)

/-- Each segment lies in the memory of the caller as its sectors lie in their page. -/
def InPlace : UInt64 → List BioVec → Prop
  | _, [] => True
  | sector, bvec :: rest =>
      bvec.bvOffset % PAGE_SIZE = sectorOffset sector ∧
        InPlace (sector + sectorsOf bvec.data.length) rest

/-- What the queue limits let through, in segments of whole sectors. -/
structure Request.Sectored (rq : Request) : Prop extends rq.Admitted where
  whole : ∀ bvec ∈ rq.segments, DUVM_SECTOR_SIZE ∣ bvec.bvOffset ∧
    DUVM_SECTOR_SIZE ∣ bvec.data.length

section Sector

variable {sector other : UInt64}

theorem toNat_pageIndex (sector : UInt64) : (pageIndex sector).toNat = sector.toNat / 8 := by
  rw [pageIndex, UInt64.toNat_div]
  rfl

/-- Sectors of a page are told apart by where they are in it. -/
theorem eq_of_pageIndex_eq (samePage : pageIndex sector = pageIndex other)
    (samePlace : sector.toNat % 8 = other.toNat % 8) : sector = other := by
  have index := congrArg UInt64.toNat samePage
  rw [toNat_pageIndex, toNat_pageIndex] at index
  apply UInt64.toNat_inj.mp
  omega

theorem toNat_next (inPage : sector.toNat % 8 + 1 < 8) : (sector + 1).toNat = sector.toNat + 1 := by
  have bound := sector.toNat_lt
  rw [UInt64.toNat_add, show (1 : UInt64).toNat = 1 from rfl, Nat.mod_eq_of_lt (by omega)]

theorem pageIndex_next (inPage : sector.toNat % 8 + 1 < 8) :
    pageIndex (sector + 1) = pageIndex sector := by
  apply UInt64.toNat_inj.mp
  rw [toNat_pageIndex, toNat_pageIndex, toNat_next inPage]
  omega

theorem sectorOffset_next (inPage : sector.toNat % 8 + 1 < 8) :
    sectorOffset (sector + 1) = sectorOffset sector + 512 := by
  change 512 * ((sector + 1).toNat % 8) = 512 * (sector.toNat % 8) + 512
  rw [toNat_next inPage]
  omega

end Sector

theorem sectorsFrom_append {first : List UInt8} {count : ℕ}
    (whole : first.length = 512 * count) (sector : UInt64) (second : List UInt8) (more : ℕ) :
    sectorsFrom sector (first ++ second) (count + more) =
      sectorsFrom sector first count ++ sectorsFrom (sector + UInt64.ofNat count) second more := by
  have size : DUVM_SECTOR_SIZE = 512 := rfl
  induction count generalizing sector first with
  | zero =>
      have empty : first = [] := List.eq_nil_of_length_eq_zero (by omega)
      have zero : sector + UInt64.ofNat 0 = sector := UInt64.add_zero _
      rw [empty, zero, Nat.zero_add]
      rfl
  | succ count ih =>
      have next : sector + 1 + UInt64.ofNat count = sector + UInt64.ofNat (count + 1) := by
        rw [Nat.add_comm count 1, UInt64.ofNat_add, UInt64.add_assoc]
        rfl
      rw [Nat.add_right_comm, sectorsFrom, sectorsFrom, List.cons_append, ← next,
        List.take_append_of_le_length (by omega), List.drop_append_of_le_length (by omega),
        ih (by rw [List.length_drop]; omega)]

theorem lastWritten_concat (written : List (UInt64 × List UInt8)) (target sector : UInt64)
    (content : List UInt8) :
    lastWritten (written ++ [(target, content)]) sector =
      if target = sector then some content else lastWritten written sector := by
  rw [lastWritten, Log.last?_concat]
  by_cases same : target = sector
  · simp [same]
  · simp [same, lastWritten]

/-- The store has the contents which were written, and no page of which no sector was. -/
structure Backs (store : XArray) (written : List (UInt64 × List UInt8)) : Prop where
  kept : ∀ sector content, lastWritten written sector = some content →
    ∃ page, store (pageIndex sector) = some page ∧
      page.read (sectorOffset sector) DUVM_SECTOR_SIZE = content
  needed : ∀ index page, store index = some page →
    ∃ sector, pageIndex sector = index ∧ (lastWritten written sector).isSome

/-- A page of the store is zero where nothing was written. -/
def Blank (store : XArray) (written : List (UInt64 × List UInt8)) : Prop :=
  ∀ sector page, store (pageIndex sector) = some page → lastWritten written sector = none →
    page.read (sectorOffset sector) DUVM_SECTOR_SIZE = zeroSector

theorem backs_empty : Backs (fun _ => none) [] where
  kept := by
    intro sector content found
    cases found
  needed := by
    intro index page found
    cases found

theorem blank_empty : Blank (fun _ => none) [] := by
  intro sector page found
  cases found

/-- Another sector of the page is not where a sector is written. -/
theorem read_write_of_ne {sector other : UInt64} {content : List UInt8}
    (length : content.length = DUVM_SECTOR_SIZE) (distinct : sector ≠ other)
    (samePage : pageIndex other = pageIndex sector) (page : ByteMemory) :
    (page.write (sectorOffset sector) content).read (sectorOffset other) DUVM_SECTOR_SIZE =
      page.read (sectorOffset other) DUVM_SECTOR_SIZE := by
  have apart : sector.toNat % 8 ≠ other.toNat % 8 := by
    intro samePlace
    exact distinct (eq_of_pageIndex_eq samePage.symm samePlace)
  apply ByteMemory.read_write_of_disjoint
  rw [length]
  change 512 * (other.toNat % 8) + 512 ≤ 512 * (sector.toNat % 8) ∨
    512 * (sector.toNat % 8) + 512 ≤ 512 * (other.toNat % 8)
  omega

section Put

variable {store : XArray} {written : List (UInt64 × List UInt8)} {sector : UInt64}
  {content : List UInt8} {page : ByteMemory}

/-- One sector is written, to the page in the store or to a new one. -/
theorem Backs.put (backs : Backs store written) (length : content.length = DUVM_SECTOR_SIZE)
    (base : ∀ stored, store (pageIndex sector) = some stored → stored = page) :
    Backs (update store (pageIndex sector) (some (page.write (sectorOffset sector) content)))
      (written ++ [(sector, content)]) where
  kept := by
    intro other found isLast
    rw [lastWritten_concat] at isLast
    split at isLast
    · next same =>
        subst same
        rw [Option.some.injEq] at isLast
        refine ⟨_, Function.update_self _ _ _, ?_⟩
        rw [← length, ByteMemory.read_write_self, isLast]
    · next distinct =>
        rcases backs.kept other found isLast with ⟨stored, isStored, isContent⟩
        by_cases samePage : pageIndex other = pageIndex sector
        · rw [samePage] at isStored
          rw [samePage]
          refine ⟨_, Function.update_self _ _ _, ?_⟩
          rw [read_write_of_ne length distinct samePage, ← base stored isStored, isContent]
        · exact ⟨stored, by rw [Function.update_of_ne samePage, isStored], isContent⟩
  needed := by
    intro index found isFound
    by_cases samePage : index = pageIndex sector
    · exact ⟨sector, samePage.symm, by rw [lastWritten_concat, if_pos rfl]; rfl⟩
    · rw [Function.update_of_ne samePage] at isFound
      rcases backs.needed index found isFound with ⟨other, isIndex, isSome⟩
      refine ⟨other, isIndex, ?_⟩
      rw [lastWritten_concat]
      split
      · rfl
      · exact isSome

theorem Blank.put (blank : Blank store written) (length : content.length = DUVM_SECTOR_SIZE)
    (base : ∀ stored, store (pageIndex sector) = some stored → stored = page)
    (clear : store (pageIndex sector) = none →
      ∀ other, pageIndex other = pageIndex sector →
        page.read (sectorOffset other) DUVM_SECTOR_SIZE = zeroSector) :
    Blank (update store (pageIndex sector) (some (page.write (sectorOffset sector) content)))
      (written ++ [(sector, content)]) := by
  intro other found isFound isNone
  rw [lastWritten_concat] at isNone
  split at isNone
  · cases isNone
  · next distinct =>
      by_cases samePage : pageIndex other = pageIndex sector
      · rw [samePage, Function.update_self, Option.some.injEq] at isFound
        rw [← isFound, read_write_of_ne length distinct samePage]
        cases isStored : store (pageIndex sector) with
        | none => exact clear isStored other samePage
        | some stored =>
            rw [← base stored isStored]
            exact blank other stored (by rw [samePage, isStored]) isNone
      · rw [Function.update_of_ne samePage] at isFound
        exact blank other found isFound isNone

end Put

/-- The store has what was written; if new pages are zero, then it has nothing else. -/
def Represents (zeroed : Prop) (store : XArray) (written : List (UInt64 × List UInt8)) : Prop :=
  Backs store written ∧ (zeroed → Blank store written)

/-- Every page which is allocated is zero. -/
def Zeroed (fate : ℕ → MemoryFate) : Prop :=
  ∀ segment page, (fate segment).page = some page →
    ∀ location, location < PAGE_SIZE → page location = 0

/-- Zeros are read from every sector of a page of zeros. -/
theorem read_eq_zeroSector {page : ByteMemory}
    (zero : ∀ location, location < PAGE_SIZE → page location = 0) (sector : UInt64) :
    page.read (sectorOffset sector) DUVM_SECTOR_SIZE = zeroSector := by
  apply List.eq_replicate_iff.mpr
  refine ⟨ByteMemory.length_read _ _ _, ?_⟩
  intro byte listed
  rcases List.mem_map.mp listed with ⟨index, inRange, rfl⟩
  have below : index < 512 := List.mem_range.mp inRange
  apply zero
  change 512 * (sector.toNat % 8) + index < 4096
  omega

section Segment

variable {zeroed : Prop} {store : XArray} {written : List (UInt64 × List UInt8)}

variable {sector : UInt64} {count : ℕ}

theorem Represents.put {page : ByteMemory} {content : List UInt8}
    (represents : Represents zeroed store written) (length : content.length = DUVM_SECTOR_SIZE)
    (base : ∀ stored, store (pageIndex sector) = some stored → stored = page)
    (clear : zeroed → store (pageIndex sector) = none →
      ∀ location, location < PAGE_SIZE → page location = 0) :
    Represents zeroed
      (update store (pageIndex sector) (some (page.write (sectorOffset sector) content)))
      (written ++ [(sector, content)]) := by
  refine ⟨represents.1.put length base, fun isZeroed => ?_⟩
  refine (represents.2 isZeroed).put length base ?_
  exact fun isNew other _ => read_eq_zeroSector (clear isZeroed isNew) other

/-- The sectors of a segment are written, to the page in the store or to a new one. -/
theorem Represents.putSectors {page : ByteMemory} {data : List UInt8}
    (represents : Represents zeroed store written) (length : data.length = 512 * (count + 1))
    (inPage : sector.toNat % 8 + (count + 1) ≤ 8)
    (base : ∀ stored, store (pageIndex sector) = some stored → stored = page)
    (clear : zeroed → store (pageIndex sector) = none →
      ∀ location, location < PAGE_SIZE → page location = 0) :
    Represents zeroed
      (update store (pageIndex sector) (some (page.write (sectorOffset sector) data)))
      (written ++ sectorsFrom sector data (count + 1)) := by
  have size : DUVM_SECTOR_SIZE = 512 := rfl
  induction count generalizing sector store written page data with
  | zero =>
      rw [sectorsFrom, sectorsFrom, List.take_of_length_le (by omega)]
      exact represents.put (by omega) base clear
  | succ count ih =>
      have whole : (data.take DUVM_SECTOR_SIZE).length = DUVM_SECTOR_SIZE := by
        rw [List.length_take]
        omega
      have rest : (data.drop DUVM_SECTOR_SIZE).length = 512 * (count + 1) := by
        rw [List.length_drop]
        omega
      have next : sector.toNat % 8 + 1 < 8 := by omega
      -- the first sector, then the others behind it in the page which is now in the store
      have first := represents.put whole base clear
      have later := @ih _ _ (sector + 1) (page.write (sectorOffset sector) (data.take _)) _ first
        rest (by rw [toNat_next next]; omega)
        (by
          intro stored found
          rw [pageIndex_next next, Function.update_self, Option.some.injEq] at found
          exact found.symm)
        (by
          intro _ isNew
          rw [pageIndex_next next, Function.update_self] at isNew
          cases isNew)
      have behind : sectorOffset (sector + 1) =
          sectorOffset sector + (data.take DUVM_SECTOR_SIZE).length := by
        rw [sectorOffset_next next, whole, size]
      have together : (page.write (sectorOffset sector) (data.take DUVM_SECTOR_SIZE)).write
          (sectorOffset (sector + 1)) (data.drop DUVM_SECTOR_SIZE) =
          page.write (sectorOffset sector) data := by
        rw [behind, ByteMemory.write_append, List.take_append_drop]
      rw [pageIndex_next next, Function.update_idem, together, List.append_assoc,
        List.singleton_append] at later
      exact later

theorem sectorsOf_eq {length : ℕ} (isCount : length = 512 * count) :
    sectorsOf length = UInt64.ofNat count := by
  rw [sectorsOf, isCount]
  exact congrArg UInt64.ofNat (Nat.mul_div_cancel_left count (by decide))

theorem sectors_cons {bvec : BioVec} (rest : List BioVec)
    (isCount : bvec.data.length = 512 * count) :
    ((bvec :: rest).flatMap BioVec.data).length / DUVM_SECTOR_SIZE =
      count + (rest.flatMap BioVec.data).length / DUVM_SECTOR_SIZE := by
  rw [List.flatMap_cons, List.length_append, isCount]
  exact Nat.mul_add_div (by decide) _ _

/-- The segments of a WRITE are written to the store, each to its sectors. -/
theorem Represents.xarrayWrite {fate : ℕ → MemoryFate} {segments : List BioVec}
    (represents : Represents zeroed store written) (plentiful : Plentiful fate)
    (clear : zeroed → Zeroed fate) (segment : ℕ) (inPlace : InPlace sector segments)
    (whole : ∀ bvec ∈ segments, 0 < bvec.data.length ∧
      bvec.bvOffset % PAGE_SIZE + bvec.data.length ≤ PAGE_SIZE ∧
      DUVM_SECTOR_SIZE ∣ bvec.data.length) :
    ∃ after, Kmod.xarrayWrite fate store segment sector segments = (true, after) ∧
      Represents zeroed after (written ++ sectorsFrom sector (segments.flatMap BioVec.data)
        ((segments.flatMap BioVec.data).length / DUVM_SECTOR_SIZE)) := by
  induction segments generalizing store written sector segment with
  | nil => exact ⟨store, rfl, by simpa [sectorsFrom] using represents⟩
  | cons bvec rest ih =>
      rcases inPlace with ⟨isOffset, inPlace⟩
      rcases whole bvec List.mem_cons_self with ⟨positive, fits, count, isCount⟩
      change bvec.data.length = 512 * count at isCount
      have sectors := sectorsOf_eq isCount
      have total := sectors_cons rest isCount
      rw [total, List.flatMap_cons, sectorsFrom_append isCount, ← List.append_assoc, ← sectors]
      obtain ⟨more, rfl⟩ : ∃ more, count = more + 1 := ⟨count - 1, by omega⟩
      have inPage : sector.toNat % 8 + (more + 1) ≤ 8 := by
        change _ = 512 * (sector.toNat % 8) at isOffset
        change _ ≤ 4096 at fits
        omega
      have others := fun other listed => whole other (List.mem_cons_of_mem bvec listed)
      unfold Kmod.xarrayWrite
      rw [isOffset]
      cases found : store (pageIndex sector) with
      | some stored =>
          refine ih (represents.putSectors isCount inPage ?_ ?_) (segment + 1) inPlace others
          · intro other isStored
            exact Option.some.inj (isStored.symm.trans found)
          · intro _ isNew
            rw [isNew] at found
            cases found
      | none =>
          rcases plentiful segment with ⟨isSome, inserted⟩
          rcases Option.isSome_iff_exists.mp isSome with ⟨fresh, allocated⟩
          simp only [allocated, inserted, if_true]
          refine ih (represents.putSectors isCount inPage ?_ ?_) (segment + 1) inPlace others
          · intro other isStored
            rw [isStored] at found
            cases found
          · intro isZeroed _
            exact clear isZeroed segment fresh allocated

/-- The page of a sector, zeros if the store has none. -/
def backingPage (store : XArray) (sector : UInt64) : ByteMemory :=
  (store (pageIndex sector)).getD fun _ => 0

/-- What the store gives for a sector. -/
def storeContent (store : XArray) (sector : UInt64) : List UInt8 :=
  (backingPage store sector).read (sectorOffset sector) DUVM_SECTOR_SIZE

/-- The store gives what a disk does for a sector which was written, or whose page has none which
was, or if all new pages are zero. -/
theorem Represents.storeContent_eq (represents : Represents zeroed store written)
    (known : (lastWritten written sector).isSome ∨
      (∀ other, pageIndex other = pageIndex sector → lastWritten written other = none) ∨ zeroed) :
    storeContent store sector = diskContent written sector := by
  rw [storeContent, backingPage, diskContent]
  cases isLast : lastWritten written sector with
  | some content =>
      rcases represents.1.kept sector content isLast with ⟨page, found, isContent⟩
      rw [found]
      exact isContent
  | none =>
      cases found : store (pageIndex sector) with
      | none => exact read_eq_zeroSector (fun _ _ => rfl) sector
      | some page =>
          rcases known with isSome | untouched | isZeroed
          · rw [isLast] at isSome
            cases isSome
          · rcases represents.1.needed _ page found with ⟨other, samePage, isSome⟩
            rw [untouched other samePage] at isSome
            cases isSome
          · exact represents.2 isZeroed sector page found isLast

/-- The sectors of a segment which is read have the contents which the store gives. -/
theorem mem_sectorsFrom_read (inPage : sector.toNat % 8 + count ≤ 8) {entry : UInt64 × List UInt8}
    (listed : entry ∈ sectorsFrom sector
      ((backingPage store sector).read (sectorOffset sector) (512 * count)) count) :
    entry.2 = storeContent store entry.1 := by
  induction count generalizing sector with
  | zero => cases listed
  | succ count ih =>
      have split : (backingPage store sector).read (sectorOffset sector) (512 * (count + 1)) =
          (backingPage store sector).read (sectorOffset sector) DUVM_SECTOR_SIZE ++
            (backingPage store sector).read (sectorOffset sector + 512) (512 * count) := by
        rw [Nat.mul_succ, Nat.add_comm, ByteMemory.read_add]
        rfl
      rw [sectorsFrom, split, List.take_left' (ByteMemory.length_read _ _ _),
        List.drop_left' (ByteMemory.length_read _ _ _)] at listed
      rcases List.mem_cons.mp listed with isFirst | later
      · rw [isFirst, storeContent]
      · cases count with
        | zero => cases later
        | succ count =>
            have next : sector.toNat % 8 + 1 < 8 := by omega
            have samePage : backingPage store sector = backingPage store (sector + 1) := by
              rw [backingPage, backingPage, pageIndex_next next]
            rw [samePage, ← sectorOffset_next next] at later
            exact ih (by rw [toNat_next next]; omega) later

theorem length_xarrayRead (store : XArray) (sector : UInt64) (segments : List BioVec) :
    ((xarrayRead store sector segments).flatMap BioVec.data).length =
      (segments.flatMap BioVec.data).length := by
  induction segments generalizing sector with
  | nil => rfl
  | cons bvec rest ih =>
      rw [xarrayRead, List.flatMap_cons, List.flatMap_cons, List.length_append, List.length_append,
        ih]
      cases store (pageIndex sector) with
      | some page => rw [ByteMemory.length_read]
      | none => rw [List.length_replicate]

/-- The segments of a READ are filled from the store, each from its sectors. -/
theorem mem_sectorsFrom_xarrayRead {segments : List BioVec} (inPlace : InPlace sector segments)
    (whole : ∀ bvec ∈ segments, bvec.bvOffset % PAGE_SIZE + bvec.data.length ≤ PAGE_SIZE ∧
      DUVM_SECTOR_SIZE ∣ bvec.data.length) {entry : UInt64 × List UInt8}
    (listed : entry ∈ sectorsFrom sector ((xarrayRead store sector segments).flatMap BioVec.data)
      ((segments.flatMap BioVec.data).length / DUVM_SECTOR_SIZE)) :
    entry.2 = storeContent store entry.1 := by
  induction segments generalizing sector with
  | nil => cases listed
  | cons bvec rest ih =>
      rcases inPlace with ⟨isOffset, inPlace⟩
      rcases whole bvec List.mem_cons_self with ⟨fits, count, isCount⟩
      change bvec.data.length = 512 * count at isCount
      have inPage : sector.toNat % 8 + count ≤ 8 := by
        rw [isOffset] at fits
        change 512 * (sector.toNat % 8) + _ ≤ 4096 at fits
        omega
      have sectors := sectorsOf_eq isCount
      have total := sectors_cons rest isCount
      have bytes : (xarrayRead store sector (bvec :: rest)).flatMap BioVec.data =
          (backingPage store sector).read (sectorOffset sector) (512 * count) ++
            (xarrayRead store (sector + UInt64.ofNat count) rest).flatMap BioVec.data := by
        rw [xarrayRead, List.flatMap_cons, sectors, isOffset, isCount, backingPage]
        cases store (pageIndex sector) with
        | some page => rfl
        | none => simp [ByteMemory.read]
      rw [total, bytes, sectorsFrom_append (ByteMemory.length_read _ _ _),
        List.mem_append] at listed
      rcases listed with here | later
      · exact mem_sectorsFrom_read inPage here
      · rw [sectors] at inPlace
        exact ih inPlace (fun other isOther => whole other (List.mem_cons_of_mem _ isOther)) later

end Segment

/-- The device, with the sectors which were written to it, in order. -/
structure DiskSession where
  dev : DuvmDevice
  written : List (UInt64 × List UInt8)

namespace DiskSession

def start (dev : DuvmDevice) : DiskSession := ⟨dev, []⟩

/-- One request is served while no daemon is connected. -/
def step (session : DiskSession) (issue : Issue) : Option DiskSession :=
  if session.dev.ring.daemonConnected then none
  else
    some ⟨(duvmQueueRq session.dev issue.fate issue.tag issue.rq).dev,
      session.written ++ if issue.rq.dir = .write then issue.rq.sectors else []⟩

/-- A request of the kind which the store serves as a disk does, with memory to be had. -/
structure Placed (issue : Issue) : Prop where
  sectored : issue.rq.Sectored
  inPlace : InPlace issue.rq.pos issue.rq.segments
  plentiful : Plentiful issue.fate

/-- No daemon is connected, and the store has what was written. -/
def Sound (zeroed : Prop) (session : DiskSession) : Prop :=
  session.dev.ring.daemonConnected = false ∧
    Represents zeroed session.dev.pageStore session.written

theorem Sound.step {zeroed : Prop} {session : DiskSession} (sound : session.Sound zeroed)
    {issue : Issue} (placed : Placed issue) (clear : zeroed → Zeroed issue.fate) :
    ∃ next, session.step issue = some next ∧ next.Sound zeroed := by
  rcases sound with ⟨offline, represents⟩
  refine ⟨_, if_neg (by simp [offline]), ?_⟩
  rw [Sound, duvmQueueRq, if_neg (by simp [offline])]
  cases direction : issue.rq.dir with
  | read =>
      simp only [queueRqSync, direction]
      rw [if_neg (by simp), List.append_nil]
      exact ⟨offline, represents⟩
  | write =>
      rcases represents.xarrayWrite placed.plentiful clear 0 placed.inPlace (fun bvec listed =>
          ⟨(placed.sectored.inPage bvec listed).1, (placed.sectored.inPage bvec listed).2,
            (placed.sectored.whole bvec listed).2⟩) with
        ⟨after, written, later⟩
      simp only [queueRqSync, direction, written, if_true]
      exact ⟨offline, later⟩

theorem Sound.run {zeroed : Prop} {session : DiskSession} (sound : session.Sound zeroed)
    {issues : List Issue} (placed : ∀ issue ∈ issues, Placed issue)
    (clear : zeroed → ∀ issue ∈ issues, Zeroed issue.fate) :
    ∃ final, Transition.run DiskSession.step session issues = some final ∧ final.Sound zeroed := by
  induction issues generalizing session with
  | nil => exact ⟨session, rfl, sound⟩
  | cons issue rest ih =>
      rcases sound.step (placed issue List.mem_cons_self)
          (fun isZeroed => clear isZeroed issue List.mem_cons_self) with
        ⟨next, stepped, later⟩
      rw [run_cons_of_step rest stepped]
      exact ih later (fun other listed => placed other (List.mem_cons_of_mem _ listed))
        (fun isZeroed other listed => clear isZeroed other (List.mem_cons_of_mem _ listed))

/-- A sector whose content the store knows: it was written, or no sector of its page was, or all
pages which were allocated are zero. -/
def Known (issues : List Issue) (session : DiskSession) (sector : UInt64) : Prop :=
  (lastWritten session.written sector).isSome ∨
    (∀ other, pageIndex other = pageIndex sector → lastWritten session.written other = none) ∨
    ∀ issue ∈ issues, Zeroed issue.fate

/-- Without a daemon, a READ returns in every sector which is known what was last written to it,
or zeros, provided that segments lie in memory as their sectors lie in the page. -/
theorem reads_last_written {ringEntries : ℕ} {dev : DuvmDevice}
    (initialised : duvmInit ringEntries = .ok dev) {issues : List Issue}
    (placed : ∀ issue ∈ issues, Placed issue) :
    ∃ session, Transition.run DiskSession.step (start dev) issues = some session ∧
      ∀ issue, Placed issue → issue.rq.dir = .read →
        ∃ completed, (duvmQueueRq session.dev issue.fate issue.tag issue.rq).ended =
            some completed ∧
          completed.status = .ok ∧ completed.rq.pos = issue.rq.pos ∧
          completed.rq.bytes.length = issue.rq.bytes.length ∧
          ∀ entry ∈ completed.rq.sectors, Known issues session entry.1 →
            entry.2 = diskContent session.written entry.1 := by
  rcases duvmInit_eq_ok initialised with ⟨_, rfl⟩
  have sound : (start ⟨duvmRingInit ringEntries ringEntries, ringEntries,
      fun _ => ⟨none, ⟨0, 0, false⟩, .idle⟩, fun _ => none⟩).Sound
      (∀ issue ∈ issues, Zeroed issue.fate) :=
    ⟨rfl, backs_empty, fun _ => blank_empty⟩
  rcases sound.run placed id with ⟨session, reached, offline, represents⟩
  refine ⟨session, reached, ?_⟩
  intro issue isPlaced isRead
  refine ⟨⟨{ issue.rq with
    segments := xarrayRead session.dev.pageStore issue.rq.pos issue.rq.segments }, .ok⟩,
    ?_, rfl, rfl, length_xarrayRead _ _ _, ?_⟩
  · rw [duvmQueueRq, if_neg (by simp [offline]), queueRqSync]
    simp only [isRead]
  · intro entry listed known
    rw [Request.sectors, Request.bytes, length_xarrayRead] at listed
    rw [← represents.storeContent_eq known]
    exact mem_sectorsFrom_xarrayRead isPlaced.inPlace (fun bvec isBvec =>
      ⟨(isPlaced.sectored.inPage bvec isBvec).2, (isPlaced.sectored.whole bvec isBvec).2⟩) listed

/-- A request for one sector, in memory at the given offset of a page. -/
def sectorRequest (sector : UInt64) (dir : Direction) (offset : ℕ) (byte : UInt8) : Request :=
  ⟨sector, dir, [⟨offset, List.replicate DUVM_SECTOR_SIZE byte⟩]⟩

theorem sectored_sectorRequest (sector : UInt64) (dir : Direction) {offset : ℕ}
    (whole : DUVM_SECTOR_SIZE ∣ offset) (inPage : offset < PAGE_SIZE) (byte : UInt8) :
    (sectorRequest sector dir offset byte).Sectored := by
  have length : (sectorRequest sector dir offset byte).bytes.length = DUVM_SECTOR_SIZE := by
    simp [sectorRequest, Request.bytes]
  refine ⟨⟨?_, ?_, ?_⟩, ?_⟩
  · rw [length]
  · rw [length]
    decide
  · intro bvec listed
    rw [List.mem_singleton.mp listed]
    simp only [List.length_replicate]
    rcases whole with ⟨place, rfl⟩
    change 512 * place < 4096 at inPage
    change 0 < 512 ∧ (512 * place) % 4096 + 512 ≤ 4096
    omega
  · intro bvec listed
    rw [List.mem_singleton.mp listed]
    simpa using whole

theorem sectors_singleton (sector : UInt64) (dir : Direction) (offset : ℕ) {data : List UInt8}
    (length : data.length = DUVM_SECTOR_SIZE) :
    (Request.mk sector dir [⟨offset, data⟩]).sectors = [(sector, data)] := by
  have bytes : (Request.mk sector dir [⟨offset, data⟩]).bytes = data := by
    simp [Request.bytes]
  rw [Request.sectors, bytes, length, Nat.div_self (by decide), sectorsFrom, sectorsFrom,
    List.take_of_length_le (Nat.le_of_eq length)]

theorem diskContent_singleton {sector other : UInt64} (distinct : sector ≠ other)
    (content : List UInt8) : diskContent [(sector, content)] other = zeroSector := by
  rw [diskContent, ← List.nil_append [_], lastWritten_concat, if_neg distinct]
  rfl

/-- The second sector of the first page is written from where it lies in the page. -/
def writeInPlace : Issue := ⟨0, sectorRequest 1 .write 512 1, freshPages⟩

theorem placed_writeInPlace : Placed writeInPlace where
  sectored := sectored_sectorRequest 1 .write (by decide) (by decide) 1
  inPlace := ⟨rfl, trivial⟩
  plentiful := fun _ => ⟨rfl, rfl⟩

theorem reads_written_sector :
    ∃ dev, duvmInit 2 = .ok dev ∧
      ∃ session, Transition.run DiskSession.step (start dev) [writeInPlace] = some session ∧
      ∀ issue, Placed issue → issue.rq.dir = .read →
        ∃ completed, (duvmQueueRq session.dev issue.fate issue.tag issue.rq).ended =
            some completed ∧
          completed.status = .ok ∧ completed.rq.pos = issue.rq.pos ∧
          completed.rq.bytes.length = issue.rq.bytes.length ∧
          ∀ entry ∈ completed.rq.sectors, Known [writeInPlace] session entry.1 →
            entry.2 = diskContent session.written entry.1 :=
  ⟨_, rfl, @reads_last_written 2 _ rfl _ (by
    intro issue listed
    rw [List.mem_singleton.mp listed]
    exact placed_writeInPlace)⟩

/-- A sector is written to a new page, then a sector of the same page is read: the store goes by
where the two lie in memory. -/
theorem write_then_read {dev : DuvmDevice} (offline : dev.ring.daemonConnected = false)
    (empty : dev.pageStore = fun _ => none) (fresh : ByteMemory) {target source : UInt64}
    (samePage : pageIndex source = pageIndex target) (place memory : ℕ) (byte : UInt8) :
    let fate : ℕ → MemoryFate := fun _ => ⟨some fresh, true⟩
    ∃ session completed,
      Transition.run DiskSession.step (start dev)
        [⟨0, sectorRequest target .write place byte, fate⟩] = some session ∧
      session.written = [(target, List.replicate DUVM_SECTOR_SIZE byte)] ∧
      (duvmQueueRq session.dev fate 0 (sectorRequest source .read memory 0)).ended =
        some completed ∧
      completed.rq.sectors =
        [(source, (fresh.write (place % PAGE_SIZE) (List.replicate DUVM_SECTOR_SIZE byte)).read
          (memory % PAGE_SIZE) DUVM_SECTOR_SIZE)] := by
  intro fate
  have written : xarrayWrite fate dev.pageStore 0 target
      (sectorRequest target .write place byte).segments =
      (true, update dev.pageStore (pageIndex target)
        (some (fresh.write (place % PAGE_SIZE) (List.replicate DUVM_SECTOR_SIZE byte)))) := by
    simp [xarrayWrite, sectorRequest, empty, fate]
  have read : xarrayRead (update dev.pageStore (pageIndex target)
      (some (fresh.write (place % PAGE_SIZE) (List.replicate DUVM_SECTOR_SIZE byte)))) source
      (sectorRequest source .read memory 0).segments =
      [⟨memory, (fresh.write (place % PAGE_SIZE) (List.replicate DUVM_SECTOR_SIZE byte)).read
        (memory % PAGE_SIZE) DUVM_SECTOR_SIZE⟩] := by
    simp [xarrayRead, sectorRequest, samePage]
  have stepped : (start dev).step ⟨0, sectorRequest target .write place byte, fate⟩ =
      some ⟨{ blkMqEndRequest dev 0 (sectorRequest target .write place byte) with
        pageStore := update dev.pageStore (pageIndex target)
          (some (fresh.write (place % PAGE_SIZE) (List.replicate DUVM_SECTOR_SIZE byte))) },
        [(target, List.replicate DUVM_SECTOR_SIZE byte)]⟩ := by
    have direction : (sectorRequest target .write place byte).dir = .write := rfl
    have sectors : (sectorRequest target .write place byte).sectors =
        [(target, List.replicate DUVM_SECTOR_SIZE byte)] :=
      sectors_singleton target .write place List.length_replicate
    have position : (sectorRequest target .write place byte).pos = target := rfl
    simp only [DiskSession.step, start, offline, duvmQueueRq, queueRqSync, direction, sectors,
      position, written, if_true, List.nil_append, Bool.false_eq_true, if_false]
  refine ⟨_, ⟨⟨source, .read, _⟩, .ok⟩, run_cons_of_step [] stepped, rfl, ?_,
    sectors_singleton source .read memory (ByteMemory.length_read _ _ _)⟩
  have stillOffline :
      (blkMqEndRequest dev 0 (sectorRequest target .write place byte)).ring.daemonConnected =
        false := offline
  have direction : (sectorRequest source .read memory 0).dir = .read := rfl
  have position : (sectorRequest source .read memory 0).pos = source := rfl
  simp only [duvmQueueRq, stillOffline, queueRqSync, direction, position, read, Bool.false_eq_true,
    if_false]

/-- Pages are allocated with what was in them before. -/
def usedPages : ℕ → MemoryFate := fun _ => ⟨some fun _ => 7, true⟩

/-- Two sectors which were never written and are not read as zeros. In the first run the sector
behind is written from the start of a memory page, and appears as the sector before; in the second
run the page was allocated for another sector. -/
theorem never_written_not_zero :
    (∀ rq ∈ [sectorRequest 1 .write 0 1, sectorRequest 0 .read 0 0, sectorRequest 0 .write 0 1,
      sectorRequest 1 .read 512 0], rq.Sectored) ∧
    ∃ dev, duvmInit 2 = .ok dev ∧
      (∃ session completed,
        Transition.run DiskSession.step (start dev)
          [⟨0, sectorRequest 1 .write 0 1, freshPages⟩] = some session ∧
        (duvmQueueRq session.dev freshPages 0 (sectorRequest 0 .read 0 0)).ended =
          some completed ∧
        completed.rq.sectors = [(0, List.replicate DUVM_SECTOR_SIZE 1)] ∧
        diskContent session.written 0 = zeroSector) ∧
      ∃ session completed,
        Transition.run DiskSession.step (start dev)
          [⟨0, sectorRequest 0 .write 0 1, usedPages⟩] = some session ∧
        (duvmQueueRq session.dev usedPages 0 (sectorRequest 1 .read 512 0)).ended =
          some completed ∧
        completed.rq.sectors = [(1, List.replicate DUVM_SECTOR_SIZE 7)] ∧
        diskContent session.written 1 = zeroSector := by
  have initial : ∃ dev, duvmInit 2 = .ok dev ∧ dev.ring.daemonConnected = false ∧
      dev.pageStore = fun _ => none := ⟨_, rfl, rfl, rfl⟩
  rcases initial with ⟨dev, initialised, offline, empty⟩
  refine ⟨?_, dev, initialised, ?_, ?_⟩
  · intro rq listed
    simp only [List.mem_cons, List.not_mem_nil, or_false] at listed
    rcases listed with rfl | rfl | rfl | rfl
    · exact sectored_sectorRequest 1 .write (by decide) (by decide) 1
    · exact sectored_sectorRequest 0 .read (by decide) (by decide) 0
    · exact sectored_sectorRequest 0 .write (by decide) (by decide) 1
    · exact sectored_sectorRequest 1 .read (by decide) (by decide) 0
  · rcases @write_then_read dev offline empty (fun _ => 0) 1 0 rfl 0 0 1 with
      ⟨session, completed, ran, written, ended, sectors⟩
    refine ⟨session, completed, ran, ended, ?_, ?_⟩
    · have data := ByteMemory.read_write_self (fun _ => 0) 0 (List.replicate DUVM_SECTOR_SIZE 1)
      rw [List.length_replicate] at data
      rw [sectors, Nat.zero_mod, data]
    · rw [written]
      exact diskContent_singleton (by decide) _
  · rcases @write_then_read dev offline empty (fun _ => 7) 0 1 rfl 0 512 1 with
      ⟨session, completed, ran, written, ended, sectors⟩
    refine ⟨session, completed, ran, ended, ?_, ?_⟩
    · have behind : 0 % PAGE_SIZE + (List.replicate DUVM_SECTOR_SIZE (1 : UInt8)).length ≤
          512 % PAGE_SIZE := by
        rw [List.length_replicate]
        decide
      rw [sectors, ByteMemory.read_write_of_disjoint (Or.inr behind)]
      simp [ByteMemory.read]
    · rw [written]
      exact diskContent_singleton (by decide) _

end DiskSession

end Duvm.Kmod
