import Duvm.Daemon.Uffd
import Duvm.Library.Progress

/-!
# Page faults are served in order

Whichever of the two threads runs when, every page of the region is faulted in
once, in order, with what the resolver makes of it, and the number of faults is the
number of pages. Both threads come to an end after a bounded number of steps.

That is so as long as the kernel copies the pages. When a copy fails, nobody looks
at the result: the thread which touches the pages is never let go, and the call does
not return.
-/

namespace Duvm.Daemon.Uffd

open Function (update)

universe u

section Cache

/-- The calls which fill the cache. -/
inductive CacheCall where
  | init (maxPages : ℤ) (available : Bool)
  | setPage (idx : ℤ) (data : PageBuffer)

def PageCache.after (cache : PageCache) : CacheCall → PageCache
  | .init maxPages available => (cache.init maxPages available).2
  | .setPage idx data => cache.setPage idx data

/-- What the cache is for: a map on as many pages as it was last initialised for, if it was. -/
structure CacheMap where
  bound : Option ℤ
  page : ℤ → Option PageBuffer

namespace CacheMap

def initial : CacheMap := ⟨none, fun _ => none⟩

def after (map : CacheMap) : CacheCall → CacheMap
  | .init maxPages available =>
      ⟨if available ∧ 0 ≤ maxPages then some maxPages else none, fun _ => none⟩
  | .setPage idx data =>
      if 0 ≤ idx ∧ ∃ bound ∈ map.bound, idx < bound then
        { map with page := update map.page idx (some data) }
      else map

end CacheMap

/-- The cache holds the map, and stays within its block. -/
structure PageCache.Refines (cache : PageCache) (map : CacheMap) : Prop where
  bound : map.bound = cache.block.map fun block => (block.count : ℤ)
  capacity : ∀ {block}, cache.block = some block → cache.capacity = block.count
  size : ∀ {block}, cache.block = some block → cache.size ≤ block.count
  held : ∀ {block idx}, cache.block = some block → 0 ≤ idx →
    block.page idx.toNat = (map.page idx).getD .zero
  present : ∀ {idx data}, map.page idx = some data →
    0 ≤ idx ∧ idx < cache.size ∧ cache.block ≠ none

variable {cache : PageCache} {map : CacheMap}

theorem PageCache.refines_initial : PageCache.initial.Refines .initial where
  bound := rfl
  capacity := by simp [PageCache.initial]
  size := by simp [PageCache.initial]
  held := by simp [PageCache.initial]
  present := by simp [CacheMap.initial]

theorem PageCache.refines_init (cache : PageCache) (map : CacheMap) (maxPages : ℤ)
    (available : Bool) :
    (cache.init maxPages available).2.Refines (map.after (.init maxPages available)) := by
  simp only [PageCache.init, CacheMap.after]
  by_cases succeeds : available = true ∧ 0 ≤ maxPages
  · rw [if_pos succeeds, if_pos succeeds]
    refine ⟨?_, ?_, ?_, ?_, by simp⟩
    · simp [succeeds.2]
    · rintro block ⟨⟩
      exact (Int.toNat_of_nonneg succeeds.2).symm
    · rintro block ⟨⟩
      exact Int.natCast_nonneg _
    · rintro block idx ⟨⟩ _
      rfl
  · rw [if_neg succeeds, if_neg succeeds]
    exact ⟨rfl, by simp, by simp, by simp, by simp⟩

/-- A page which is set lies within the block. -/
theorem PageCache.Refines.put (refines : cache.Refines map) {block : CacheBlock}
    (isBlock : cache.block = some block) {idx : ℤ} (inside : 0 ≤ idx ∧ idx < block.count)
    (data : PageBuffer) :
    PageCache.Refines
      { cache with
        block := some { block with page := update block.page idx.toNat data }
        size := if cache.size ≤ idx then idx + 1 else cache.size }
      { map with page := update map.page idx (some data) } where
  bound := by
    rw [refines.bound, isBlock]
    rfl
  capacity := by
    rintro other ⟨⟩
    have same := refines.capacity isBlock
    exact same
  size := by
    rintro other ⟨⟩
    have below := refines.size isBlock
    simp only
    split <;> omega
  held := by
    rintro other key ⟨⟩ nonnegative
    simp only [Function.update_apply]
    by_cases same : key = idx
    · rw [if_pos same, if_pos (by rw [same])]
      rfl
    · rw [if_neg same, if_neg (by omega)]
      exact refines.held isBlock nonnegative
  present := by
    intro key found isFound
    simp only [Function.update_apply] at isFound ⊢
    by_cases same : key = idx
    · subst same
      split <;> simp_all
    · rw [if_neg same] at isFound
      have before := refines.present isFound
      refine ⟨before.1, ?_, by simp⟩
      split <;> omega

theorem PageCache.Refines.setPage (refines : cache.Refines map) (idx : ℤ) (data : PageBuffer) :
    (cache.setPage idx data).Refines (map.after (.setPage idx data)) := by
  have isBound := refines.bound
  simp only [PageCache.setPage, CacheMap.after]
  cases isBlock : cache.block with
  | none =>
      rw [isBlock, Option.map_none] at isBound
      have unbounded : ¬(0 ≤ idx ∧ ∃ bound ∈ map.bound, idx < bound) := by
        simp [isBound]
      rw [if_neg unbounded]
      exact refines
  | some block =>
      rw [isBlock, Option.map_some] at isBound
      simp only [isBound, Option.mem_def, Option.some.injEq, exists_eq_left',
        refines.capacity isBlock]
      split
      · next inside =>
          have put := refines.put isBlock inside data
          rw [isBound, refines.capacity isBlock] at put
          exact put
      · exact refines

theorem PageCache.Refines.after (refines : cache.Refines map) (call : CacheCall) :
    (cache.after call).Refines (map.after call) := by
  cases call with
  | init maxPages available => exact refines_init cache map maxPages available
  | setPage idx data => exact refines.setPage idx data

/-- The resolver returns what the map has, and zeroes for the other pages. -/
theorem PageCache.Refines.resolve_eq (refines : cache.Refines map) (idx : ℤ) :
    cache.resolve idx = (map.page idx).getD .zero := by
  have unset : ¬(0 ≤ idx ∧ idx < cache.size ∧ cache.block ≠ none) → map.page idx = none := by
    intro absent
    rw [Option.eq_none_iff_forall_ne_some]
    intro data isFound
    exact absent (refines.present isFound)
  unfold PageCache.resolve
  cases isBlock : cache.block with
  | none =>
      rw [unset (by simp [isBlock])]
      rfl
  | some block =>
      simp only
      split
      · next inside => exact refines.held isBlock inside.1
      · next outside =>
          rw [unset (by rintro ⟨nonnegative, below, _⟩; exact outside ⟨nonnegative, below⟩)]
          rfl

theorem PageCache.refines_foldl (calls : List CacheCall) (refines : cache.Refines map) :
    (calls.foldl PageCache.after cache).Refines (calls.foldl CacheMap.after map) := by
  induction calls generalizing cache map with
  | nil => exact refines
  | cons call rest ih => exact ih (refines.after call)

end Cache

namespace Region

variable {region : Region} {page : ℕ}

theorem toNat_address (inRegion : page < region.numPages) :
    (region.address page).toNat = region.base.toNat + page * PAGE_SIZE := by
  have inside := region.inside
  have size : PAGE_SIZE = 4096 := rfl
  rw [address, UInt64.toNat_add, UInt64.toNat_ofNat', Nat.add_mod_mod, size]
  rw [size] at inside
  apply Nat.mod_eq_of_lt
  omega

theorem pageOf_address (inRegion : page < region.numPages) :
    pageOf (region.address page) = region.address page := by
  have aligned := region.aligned
  rw [← UInt64.toNat_inj, pageOf, @Alignment.toNat_and_not_mask _ 4095 12 rfl,
    toNat_address inRegion]
  have size : PAGE_SIZE = 2 ^ 12 := rfl
  rw [size] at aligned ⊢
  omega

theorem pageNumber_address (inRegion : page < region.numPages) :
    ((region.address page).toNat - region.base.toNat) / PAGE_SIZE = page := by
  rw [toNat_address inRegion, Nat.add_sub_cancel_left]
  exact Nat.mul_div_cancel page (by decide)

theorem indexOf_address (inRegion : page < region.numPages) :
    region.indexOf (region.address page) = page := by
  have isInt := region.isInt
  have inside := region.inside
  have size : PAGE_SIZE = 4096 := rfl
  have offset : (region.address page - region.base).toNat = page * PAGE_SIZE := by
    have below := region.base.toNat_lt
    rw [UInt64.toNat_sub, toNat_address inRegion, size]
    rw [size] at inside
    omega
  have quotient : ((region.address page - region.base) / UInt64.ofNat PAGE_SIZE).toNat = page := by
    rw [UInt64.toNat_div, offset]
    exact Nat.mul_div_cancel page (by decide)
  have small : 2 * (BitVec.ofNat 32 page).toNat < 2 ^ 32 := by
    rw [BitVec.toNat_ofNat, Nat.mod_eq_of_lt (by omega)]
    omega
  rw [indexOf, quotient, BitVec.toInt_eq_toNat_of_lt small, BitVec.toNat_ofNat,
    Nat.mod_eq_of_lt (by omega)]

end Region

section Threads

variable {Ctx : Type u} {region : Region} {resolver : Resolver Ctx} {src : PageBuffer} {ctx : Ctx}

/-- The buffer and the context after the resolver was called for so many pages in turn. -/
def served (resolver : Resolver Ctx) (src : PageBuffer) (ctx : Ctx) : ℕ → PageBuffer × Ctx
  | 0 => (src, ctx)
  | count + 1 =>
      let (before, within) := served resolver src ctx count
      resolver count before within

def Toucher.left (numPages : ℕ) : Toucher → ℕ
  | .touch page => 2 * (numPages - page) + 3
  | .blocked page => 2 * (numPages - page) + 2
  | .closing => 2
  | .joining => 1
  | .returned => 0

def Handler.left (remaining : ℕ) : Handler → ℕ
  | .reading => 4 * remaining + 1
  | .resolving _ => 4 * remaining
  | .copying _ => 4 * remaining - 1
  | .counting => 4 * remaining - 2
  | .finished => 0

namespace Machine

variable {machine next : Machine Ctx} {count : ℕ}

/-- The first thread, while the handler is not busy with its fault. -/
inductive Ahead (region : Region) (machine : Machine Ctx) (count : ℕ) : Prop
  | touching (atPage : machine.toucher = .touch count) (quiet : machine.message = none)
  | faulted (atPage : machine.toucher = .blocked count) (inRegion : count < region.numPages)
      (raised : machine.message = some (region.address count))
  | woken (page : ℕ) (atPage : machine.toucher = .blocked page) (isLast : page + 1 = count)
      (quiet : machine.message = none)
  | closing (atEnd : machine.toucher = .closing) (all : count = region.numPages)
      (quiet : machine.message = none)
  | joining (atEnd : machine.toucher = .joining) (all : count = region.numPages)
      (quiet : machine.message = none)
  | returned (atEnd : machine.toucher = .returned) (all : count = region.numPages)
      (quiet : machine.message = none) (finished : machine.handler = .finished)

/-- Where the handler is when so many pages are there. -/
inductive HandlerAt (region : Region) (resolver : Resolver Ctx) (src : PageBuffer) (ctx : Ctx)
    (machine : Machine Ctx) (count : ℕ) : Prop
  | reading (atRead : machine.handler = .reading) (iteration : machine.iteration = count)
      (buffer : (machine.src, machine.ctx) = served resolver src ctx count)
      (ahead : machine.Ahead region count)
  | resolving (atResolve : machine.handler = .resolving (region.address count))
      (iteration : machine.iteration = count) (inRegion : count < region.numPages)
      (buffer : (machine.src, machine.ctx) = served resolver src ctx count)
      (blocked : machine.toucher = .blocked count) (quiet : machine.message = none)
  | copying (atCopy : machine.handler = .copying (region.address count))
      (iteration : machine.iteration = count) (inRegion : count < region.numPages)
      (buffer : (machine.src, machine.ctx) = served resolver src ctx (count + 1))
      (blocked : machine.toucher = .blocked count) (quiet : machine.message = none)
  | counting (atCount : machine.handler = .counting) (iteration : machine.iteration + 1 = count)
      (buffer : (machine.src, machine.ctx) = served resolver src ctx count)
      (ahead : machine.Ahead region count)
  | finished (atEnd : machine.handler = .finished) (iteration : machine.iteration = count)
      (all : count = region.numPages) (ahead : machine.Ahead region count)

/-- So many pages have been served, in order. -/
structure Serving (region : Region) (resolver : Resolver Ctx) (src : PageBuffer) (ctx : Ctx)
    (machine : Machine Ctx) (count : ℕ) : Prop where
  noneLost : machine.lost = false
  faults : machine.faults = machine.iteration
  within : count ≤ region.numPages
  pages : ∀ page, machine.pages page =
    if page < count then some (served resolver src ctx (page + 1)).1 else none
  closed : machine.closed = true → count = region.numPages
  handler : machine.HandlerAt region resolver src ctx count

/-- The page which was touched last did not come, and will not. -/
structure Lost (machine : Machine Ctx) (page : ℕ) : Prop where
  lost : machine.lost = true
  blocked : machine.toucher = .blocked page
  missing : machine.pages page = none
  quiet : machine.message = none
  handler : machine.handler = .counting ∨ machine.handler = .reading ∨ machine.handler = .finished

theorem serving_start (region : Region) (resolver : Resolver Ctx) (src : PageBuffer) (ctx : Ctx) :
    (start src ctx).Serving region resolver src ctx 0 where
  noneLost := rfl
  faults := rfl
  within := Nat.zero_le _
  pages := by simp [start]
  closed := by simp [start]
  handler := .reading rfl rfl rfl (.touching rfl rfl)

/-- What a step of the first thread leaves alone. -/
structure Beside (machine next : Machine Ctx) : Prop where
  handler : next.handler = machine.handler
  iteration : next.iteration = machine.iteration
  faults : next.faults = machine.faults
  buffer : (next.src, next.ctx) = (machine.src, machine.ctx)
  pages : next.pages = machine.pages
  lost : next.lost = machine.lost

theorem beside_of_toucherStep (stepped : machine.toucherStep region = some next) :
    machine.Beside next := by
  unfold Machine.toucherStep at stepped
  split at stepped
  · split at stepped
    · split at stepped
      · cases stepped
        exact ⟨rfl, rfl, rfl, rfl, rfl, rfl⟩
      · cases stepped
        exact ⟨rfl, rfl, rfl, rfl, rfl, rfl⟩
    · cases stepped
      exact ⟨rfl, rfl, rfl, rfl, rfl, rfl⟩
  · split at stepped
    · cases stepped
      exact ⟨rfl, rfl, rfl, rfl, rfl, rfl⟩
    · cases stepped
  · cases stepped
    exact ⟨rfl, rfl, rfl, rfl, rfl, rfl⟩
  · split at stepped
    · cases stepped
      exact ⟨rfl, rfl, rfl, rfl, rfl, rfl⟩
    · cases stepped
  · cases stepped

/-- The first thread goes on while the handler is not busy with its fault. -/
theorem Serving.ahead (serving : machine.Serving region resolver src ctx count)
    (ahead : machine.Ahead region count)
    (stepped : machine.toucherStep region = some next) :
    next.Ahead region count ∧ (next.closed = true → count = region.numPages) := by
  have wasClosed := serving.closed
  have within := serving.within
  cases ahead with
  | touching atPage quiet =>
      have missing : machine.pages count = none := by
        rw [serving.pages, if_neg (Nat.lt_irrefl count)]
      simp only [Machine.toucherStep, atPage, missing, Option.isSome_none, Bool.false_eq_true,
        if_false] at stepped
      split at stepped
      · next inRegion =>
          cases stepped
          exact ⟨.faulted rfl inRegion rfl, wasClosed⟩
      · next atEnd =>
          cases stepped
          exact ⟨.closing rfl (by omega) quiet, wasClosed⟩
  | faulted atPage inRegion raised =>
      have missing : machine.pages count = none := by
        rw [serving.pages, if_neg (Nat.lt_irrefl count)]
      simp only [Machine.toucherStep, atPage, missing, Option.isSome_none, Bool.false_eq_true,
        if_false] at stepped
      cases stepped
  | woken page atPage isLast quiet =>
      have present : (machine.pages page).isSome = true := by
        rw [serving.pages, if_pos (by omega)]
        rfl
      simp only [Machine.toucherStep, atPage, present, if_true] at stepped
      cases stepped
      exact ⟨.touching (by rw [isLast]) quiet, wasClosed⟩
  | closing atEnd all quiet =>
      simp only [Machine.toucherStep, atEnd] at stepped
      cases stepped
      exact ⟨.joining rfl all quiet, fun _ => all⟩
  | joining atEnd all quiet =>
      simp only [Machine.toucherStep, atEnd] at stepped
      split at stepped
      · next finished =>
          cases stepped
          exact ⟨.returned rfl all quiet finished, wasClosed⟩
      · cases stepped
  | returned atEnd all quiet finished =>
      simp only [Machine.toucherStep, atEnd] at stepped
      cases stepped

theorem Serving.toucherStep (serving : machine.Serving region resolver src ctx count)
    (stepped : machine.toucherStep region = some next) :
    next.Serving region resolver src ctx count := by
  have beside := beside_of_toucherStep stepped
  -- while the handler is busy with its fault the thread is blocked
  have notBusy : machine.toucher = .blocked count → machine.message = none → False := by
    intro blocked _
    have missing : machine.pages count = none := by
      rw [serving.pages, if_neg (Nat.lt_irrefl count)]
    simp only [Machine.toucherStep, blocked, missing, Option.isSome_none, Bool.false_eq_true,
      if_false] at stepped
    cases stepped
  have onward : ∀ {ahead : machine.Ahead region count},
      (next.Ahead region count → next.HandlerAt region resolver src ctx count) →
        next.Serving region resolver src ctx count := by
    intro ahead handlerAt
    rcases serving.ahead ahead stepped with ⟨stillAhead, closed⟩
    refine ⟨beside.lost.trans serving.noneLost, ?_, serving.within, ?_, closed,
      handlerAt stillAhead⟩
    · rw [beside.faults, serving.faults, beside.iteration]
    · rw [beside.pages]
      exact serving.pages
  cases serving.handler with
  | reading atRead iteration buffer ahead =>
      exact @onward ahead (.reading (beside.handler.trans atRead)
        (beside.iteration.trans iteration) (beside.buffer.trans buffer))
  | resolving _ _ _ _ blocked quiet => exact (notBusy blocked quiet).elim
  | copying _ _ _ _ blocked quiet => exact (notBusy blocked quiet).elim
  | counting atCount iteration buffer ahead =>
      refine @onward ahead (.counting (beside.handler.trans atCount) ?_
        (beside.buffer.trans buffer))
      rw [beside.iteration, iteration]
  | finished atEnd iteration all ahead =>
      exact @onward ahead (.finished (beside.handler.trans atEnd)
        (beside.iteration.trans iteration) all)

theorem Ahead.setHandler (ahead : machine.Ahead region count)
    (unfinished : machine.handler ≠ .finished) (handler : Handler) (iteration faults : ℕ) :
    Ahead region { machine with handler, iteration, faults } count := by
  cases ahead with
  | touching atPage quiet => exact .touching atPage quiet
  | faulted atPage inRegion raised => exact .faulted atPage inRegion raised
  | woken page atPage isLast quiet => exact .woken page atPage isLast quiet
  | closing atEnd all quiet => exact .closing atEnd all quiet
  | joining atEnd all quiet => exact .joining atEnd all quiet
  | returned _ _ _ finished => exact absurd finished unfinished

/-- A fault which waits is that of the page which was touched last. -/
theorem Ahead.faulted_of_message (ahead : machine.Ahead region count) {address : UInt64}
    (raised : machine.message = some address) :
    machine.toucher = .blocked count ∧ region.address count = address := by
  cases ahead with
  | faulted atPage inRegion isRaised =>
      rw [isRaised] at raised
      exact ⟨atPage, Option.some.inj raised⟩
  | touching atPage quiet => simp [quiet] at raised
  | woken page atPage isLast quiet => simp [quiet] at raised
  | closing atEnd all quiet => simp [quiet] at raised
  | joining atEnd all quiet => simp [quiet] at raised
  | returned atEnd all quiet finished => simp [quiet] at raised

/-- The handler goes on, with one more page when it has copied it; or it has lost one. -/
theorem Serving.handlerStep (serving : machine.Serving region resolver src ctx count)
    {copies : Bool} (stepped : machine.handlerStep region resolver copies = some next) :
    (∃ count, next.Serving region resolver src ctx count) ∨ ∃ page, next.Lost page := by
  cases serving.handler with
  | reading atRead iteration buffer ahead =>
      left
      have unfinished : machine.handler ≠ .finished := by simp [atRead]
      simp only [Machine.handlerStep, atRead, iteration] at stepped
      split at stepped
      · next inRegion =>
          -- a fault is read only when the first thread has raised one
          cases raised : machine.message with
          | some address =>
              rw [raised] at stepped
              cases stepped
              rcases ahead.faulted_of_message raised with ⟨atPage, rfl⟩
              refine ⟨count, serving.noneLost, ?_, serving.within, serving.pages,
                serving.closed, .resolving ?_ rfl inRegion buffer atPage rfl⟩
              · rw [serving.faults, iteration]
              · rw [Region.pageOf_address inRegion]
          | none =>
              rw [raised] at stepped
              simp only at stepped
              split at stepped
              · next isClosed =>
                  have all := serving.closed isClosed
                  omega
              · cases stepped
      · next atEnd =>
          cases stepped
          have within := serving.within
          have all : count = region.numPages := by omega
          refine ⟨count, serving.noneLost, ?_, serving.within, serving.pages, serving.closed,
            .finished rfl rfl all (ahead.setHandler unfinished .finished count machine.faults)⟩
          rw [serving.faults, iteration]
  | resolving atResolve iteration inRegion buffer blocked quiet =>
      left
      simp only [Machine.handlerStep, atResolve, Region.indexOf_address inRegion] at stepped
      cases stepped
      refine ⟨count, serving.noneLost, serving.faults, serving.within, serving.pages,
        serving.closed, .copying rfl iteration inRegion ?_ blocked quiet⟩
      rcases Prod.mk.inj buffer with ⟨isSrc, isCtx⟩
      simp only [served, isSrc, isCtx]
  | copying atCopy iteration inRegion buffer blocked quiet =>
      simp only [Machine.handlerStep, atCopy] at stepped
      split at stepped
      · left
        cases stepped
        refine ⟨count + 1, serving.noneLost, serving.faults, inRegion, ?_, ?_,
          .counting rfl (by rw [iteration]) buffer (.woken count blocked rfl quiet)⟩
        · intro page
          rw [Region.pageNumber_address inRegion]
          simp only [Function.update_apply, serving.pages]
          have isSrc : machine.src = (served resolver src ctx (count + 1)).1 :=
            congrArg Prod.fst buffer
          by_cases same : page = count
          · rw [if_pos same, same, if_pos (Nat.lt_succ_self count), isSrc]
          · rw [if_neg same]
            simp only [show page < count + 1 ↔ page < count by omega]
        · intro isClosed
          have all := serving.closed isClosed
          omega
      · right
        cases stepped
        refine ⟨count, rfl, blocked, ?_, quiet, Or.inl rfl⟩
        rw [serving.pages, if_neg (Nat.lt_irrefl count)]
  | counting atCount iteration buffer ahead =>
      left
      have unfinished : machine.handler ≠ .finished := by simp [atCount]
      simp only [Machine.handlerStep, atCount] at stepped
      cases stepped
      refine ⟨count, serving.noneLost, ?_, serving.within, serving.pages, serving.closed,
        .reading rfl iteration buffer (ahead.setHandler unfinished .reading _ _)⟩
      rw [serving.faults]
  | finished atEnd iteration all ahead =>
      simp only [Machine.handlerStep, atEnd] at stepped
      cases stepped

theorem Lost.step {page : ℕ} {turn : Turn} (lost : machine.Lost page)
    (stepped : machine.step region resolver turn = some next) : next.Lost page := by
  cases turn with
  | toucher =>
      simp only [Machine.step, Machine.toucherStep, lost.blocked, lost.missing, Option.isSome_none,
        Bool.false_eq_true, if_false] at stepped
      cases stepped
  | handler copies =>
      simp only [Machine.step, Machine.handlerStep] at stepped
      rcases lost.handler with atCount | atRead | atEnd
      · rw [atCount] at stepped
        cases stepped
        exact ⟨lost.lost, lost.blocked, lost.missing, lost.quiet, Or.inr (Or.inl rfl)⟩
      · rw [atRead] at stepped
        simp only [lost.quiet] at stepped
        split at stepped
        · split at stepped
          · cases stepped
            exact ⟨lost.lost, lost.blocked, lost.missing, rfl, Or.inr (Or.inr rfl)⟩
          · cases stepped
        · cases stepped
          exact ⟨lost.lost, lost.blocked, lost.missing, rfl, Or.inr (Or.inr rfl)⟩
      · rw [atEnd] at stepped
        cases stepped

/-- What holds in every reachable state. -/
def Sound (region : Region) (resolver : Resolver Ctx) (src : PageBuffer) (ctx : Ctx)
    (machine : Machine Ctx) : Prop :=
  (∃ count, machine.Serving region resolver src ctx count) ∨ ∃ page, machine.Lost page

theorem Sound.step {turn : Turn} (sound : machine.Sound region resolver src ctx)
    (stepped : machine.step region resolver turn = some next) :
    next.Sound region resolver src ctx := by
  rcases sound with ⟨count, serving⟩ | ⟨page, lost⟩
  · cases turn with
    | toucher => exact Or.inl ⟨count, serving.toucherStep stepped⟩
    | handler copies => exact serving.handlerStep stepped
  · exact Or.inr ⟨page, lost.step stepped⟩

theorem sound_of_run {schedule : List Turn}
    (ran : Transition.run (step region resolver) (start src ctx) schedule = some machine) :
    machine.Sound region resolver src ctx := by
  refine Transition.run_invariant (Or.inl ⟨0, serving_start region resolver src ctx⟩) ?_ ran
  intro current turn after sound stepped
  exact sound.step stepped

/-- At rest the first thread has returned, unless it has lost a page. -/
theorem Serving.returned_of_quiet (serving : machine.Serving region resolver src ctx count)
    (quiet : Transition.Quiet (step region resolver) (fun _ => True) machine) :
    machine.toucher = .returned := by
  have noTouch : machine.toucherStep region = none := quiet .toucher trivial
  have noHandling : machine.handlerStep region resolver true = none := quiet (.handler true) trivial
  -- the handler can go on unless it waits for a fault or has finished
  have idle : machine.Ahead region count ∧
      (machine.handler = .finished ∨ machine.message = none ∧ count < region.numPages) := by
    cases serving.handler with
    | reading atRead iteration buffer ahead =>
        refine ⟨ahead, Or.inr ?_⟩
        simp only [Machine.handlerStep, atRead, iteration] at noHandling
        split at noHandling
        · next inRegion =>
            split at noHandling
            · cases noHandling
            · next isNone => exact ⟨isNone, inRegion⟩
        · cases noHandling
    | resolving atResolve => simp [Machine.handlerStep, atResolve] at noHandling
    | copying atCopy => simp [Machine.handlerStep, atCopy] at noHandling
    | counting atCount => simp [Machine.handlerStep, atCount] at noHandling
    | finished atEnd _ _ ahead => exact ⟨ahead, Or.inl atEnd⟩
  rcases idle with ⟨ahead, waiting⟩
  cases ahead with
  | touching atPage isQuiet =>
      simp only [Machine.toucherStep, atPage] at noTouch
      split at noTouch
      · split at noTouch <;> cases noTouch
      · cases noTouch
  | faulted atPage inRegion raised =>
      rcases waiting with finished | ⟨isNone, _⟩
      · cases serving.handler with
        | finished _ _ all => omega
        | reading atRead => simp [atRead] at finished
        | resolving atResolve => simp [atResolve] at finished
        | copying atCopy => simp [atCopy] at finished
        | counting atCount => simp [atCount] at finished
      · rw [isNone] at raised
        cases raised
  | woken page atPage isLast isQuiet =>
      have present : (machine.pages page).isSome = true := by
        rw [serving.pages, if_pos (by omega)]
        rfl
      simp [Machine.toucherStep, atPage, present] at noTouch
  | closing atEnd => simp [Machine.toucherStep, atEnd] at noTouch
  | joining atEnd all isQuiet =>
      rcases waiting with finished | ⟨_, inRegion⟩
      · simp [Machine.toucherStep, atEnd, finished] at noTouch
      · omega
  | returned atEnd => exact atEnd

theorem Serving.all_of_returned (serving : machine.Serving region resolver src ctx count)
    (returned : machine.toucher = .returned) :
    count = region.numPages ∧ machine.faults = region.numPages := by
  have iteration : ∀ {ahead : machine.Ahead region count},
      count = region.numPages ∧ machine.handler = .finished := by
    intro ahead
    cases ahead with
    | returned _ all _ finished => exact ⟨all, finished⟩
    | touching atPage => simp [returned] at atPage
    | faulted atPage => simp [returned] at atPage
    | woken page atPage => simp [returned] at atPage
    | closing atEnd => simp [returned] at atEnd
    | joining atEnd => simp [returned] at atEnd
  cases serving.handler with
  | finished _ iterations all => exact ⟨all, by rw [serving.faults, iterations, all]⟩
  | reading atRead _ _ ahead =>
      have finished := (@iteration ahead).2
      simp [atRead] at finished
  | counting atCount _ _ ahead =>
      have finished := (@iteration ahead).2
      simp [atCount] at finished
  | resolving _ _ _ _ blocked => simp [returned] at blocked
  | copying _ _ _ _ blocked => simp [returned] at blocked

/-- How many steps both threads have still to take at most. -/
def cost (region : Region) (machine : Machine Ctx) : ℕ :=
  machine.toucher.left region.numPages +
    machine.handler.left (region.numPages - machine.iteration)

/-- The threads are inside their loops. -/
structure Bounded (region : Region) (machine : Machine Ctx) : Prop where
  touched : ∀ page, machine.toucher = .blocked page → page < region.numPages
  handled : machine.handler = .reading ∨ machine.handler = .finished ∨
    machine.iteration < region.numPages

theorem bounded_start (region : Region) (src : PageBuffer) (ctx : Ctx) :
    (start src ctx).Bounded region :=
  ⟨by simp [start], Or.inl rfl⟩

theorem Bounded.toucherStep (bounded : machine.Bounded region)
    (stepped : machine.toucherStep region = some next) :
    next.Bounded region ∧
      next.toucher.left region.numPages < machine.toucher.left region.numPages := by
  have beside := beside_of_toucherStep stepped
  have handled : next.handler = .reading ∨ next.handler = .finished ∨
      next.iteration < region.numPages := by
    rw [beside.handler, beside.iteration]
    exact bounded.handled
  cases atToucher : machine.toucher with
  | touch page =>
      simp only [Machine.toucherStep, atToucher] at stepped
      split at stepped
      · next inRegion =>
          split at stepped
          · cases stepped
            refine ⟨⟨by simp, handled⟩, ?_⟩
            simp only [Toucher.left]
            omega
          · cases stepped
            refine ⟨⟨?_, handled⟩, by simp [Toucher.left]⟩
            rintro other isBlocked
            rw [← Toucher.blocked.inj isBlocked]
            exact inRegion
      · cases stepped
        refine ⟨⟨by simp, handled⟩, ?_⟩
        simp only [Toucher.left]
        omega
  | blocked page =>
      have inRegion := bounded.touched page atToucher
      simp only [Machine.toucherStep, atToucher] at stepped
      split at stepped
      · cases stepped
        refine ⟨⟨by simp, handled⟩, ?_⟩
        simp only [Toucher.left]
        omega
      · cases stepped
  | closing =>
      simp only [Machine.toucherStep, atToucher] at stepped
      cases stepped
      exact ⟨⟨by simp, handled⟩, by simp [Toucher.left]⟩
  | joining =>
      simp only [Machine.toucherStep, atToucher] at stepped
      split at stepped
      · cases stepped
        exact ⟨⟨by simp, handled⟩, by simp [Toucher.left]⟩
      · cases stepped
  | returned =>
      simp only [Machine.toucherStep, atToucher] at stepped
      cases stepped

theorem Bounded.handlerStep {copies : Bool} (bounded : machine.Bounded region)
    (stepped : machine.handlerStep region resolver copies = some next) :
    next.Bounded region ∧ next.toucher = machine.toucher ∧
      next.handler.left (region.numPages - next.iteration) <
        machine.handler.left (region.numPages - machine.iteration) := by
  have touched := bounded.touched
  have inLoop : machine.handler ≠ .reading → machine.handler ≠ .finished →
      machine.iteration < region.numPages := by
    intro notReading notFinished
    rcases bounded.handled with atRead | atEnd | inside
    · exact absurd atRead notReading
    · exact absurd atEnd notFinished
    · exact inside
  cases atHandler : machine.handler with
  | reading =>
      simp only [Machine.handlerStep, atHandler] at stepped
      split at stepped
      · next inside =>
          split at stepped
          · cases stepped
            exact ⟨⟨touched, Or.inr (Or.inr inside)⟩, rfl, by simp [Handler.left]⟩
          · split at stepped
            · cases stepped
              exact ⟨⟨touched, Or.inr (Or.inl rfl)⟩, rfl, by simp [Handler.left]⟩
            · cases stepped
      · cases stepped
        exact ⟨⟨touched, Or.inr (Or.inl rfl)⟩, rfl, by simp [Handler.left]⟩
  | resolving pa =>
      have inside := inLoop (by simp [atHandler]) (by simp [atHandler])
      simp only [Machine.handlerStep, atHandler] at stepped
      cases stepped
      refine ⟨⟨touched, Or.inr (Or.inr inside)⟩, rfl, ?_⟩
      simp only [Handler.left]
      omega
  | copying pa =>
      have inside := inLoop (by simp [atHandler]) (by simp [atHandler])
      have less : 4 * (region.numPages - machine.iteration) - 2 <
          4 * (region.numPages - machine.iteration) - 1 := by omega
      simp only [Machine.handlerStep, atHandler] at stepped
      split at stepped
      · cases stepped
        exact ⟨⟨touched, Or.inr (Or.inr inside)⟩, rfl, less⟩
      · cases stepped
        exact ⟨⟨touched, Or.inr (Or.inr inside)⟩, rfl, less⟩
  | counting =>
      have inside := inLoop (by simp [atHandler]) (by simp [atHandler])
      simp only [Machine.handlerStep, atHandler] at stepped
      cases stepped
      refine ⟨⟨touched, Or.inl rfl⟩, rfl, ?_⟩
      simp only [Handler.left]
      omega
  | finished =>
      simp only [Machine.handlerStep, atHandler] at stepped
      cases stepped

theorem Bounded.step {turn : Turn} (bounded : machine.Bounded region)
    (stepped : machine.step region resolver turn = some next) :
    next.Bounded region ∧ next.cost region < machine.cost region := by
  cases turn with
  | toucher =>
      rcases bounded.toucherStep stepped with ⟨stillBounded, less⟩
      have beside := beside_of_toucherStep stepped
      refine ⟨stillBounded, ?_⟩
      rw [cost, cost, beside.handler, beside.iteration]
      omega
  | handler copies =>
      rcases bounded.handlerStep stepped with ⟨stillBounded, same, less⟩
      refine ⟨stillBounded, ?_⟩
      rw [cost, cost, same]
      omega

theorem descends_cost (region : Region) (resolver : Resolver Ctx) :
    Transition.Descends (step region resolver) (fun _ => True) (Bounded region)
      (cost region) where
  keeps bounded _ stepped := (bounded.step stepped).1
  falls bounded _ stepped := (bounded.step stepped).2

/-- Once the first thread has returned, every page is there, as the resolver has filled it in. -/
theorem Sound.served_of_returned (sound : machine.Sound region resolver src ctx)
    (returned : machine.toucher = .returned) :
    machine.faults = region.numPages ∧ ∀ page < region.numPages,
      machine.pages page = some (served resolver src ctx (page + 1)).1 := by
  rcases sound with ⟨count, serving⟩ | ⟨page, lost⟩
  · rcases serving.all_of_returned returned with ⟨rfl, faults⟩
    refine ⟨faults, ?_⟩
    intro page inRegion
    rw [serving.pages, if_pos inRegion]
  · have blocked := lost.blocked
    simp [returned] at blocked

theorem cost_start (region : Region) (src : PageBuffer) (ctx : Ctx) :
    (start src ctx).cost region = 6 * region.numPages + 4 := by
  simp only [cost, start, Toucher.left, Handler.left]
  omega

end Machine

open Machine in
/-- Whatever the resolver does and however the two threads are scheduled, they come to rest after a
number of steps linear in the number of pages. Then either the first thread has returned, every
page was faulted in once and holds what the resolver was made to fill in for it, or a copy has
failed and the first thread is blocked for ever. -/
theorem faults_are_served (region : Region) (resolver : Resolver Ctx) (src : PageBuffer)
    (ctx : Ctx) (schedule : List Turn) {machine : Machine Ctx}
    (ran : Transition.run (step region resolver) (start src ctx) schedule = some machine) :
    schedule.length ≤ 6 * region.numPages + 4 ∧
    (∃ more final, Transition.run (step region resolver) machine more = some final ∧
      Transition.Quiet (step region resolver) (fun _ => True) final) ∧
    (Transition.Quiet (step region resolver) (fun _ => True) machine →
      (machine.toucher = .returned ↔ machine.lost = false)) ∧
    (machine.toucher = .returned → machine.faults = region.numPages ∧
      ∀ page < region.numPages,
        machine.pages page = some (served resolver src ctx (page + 1)).1) := by
  have descends := descends_cost region resolver
  have begun := bounded_start region src ctx
  have bounded : machine.Bounded region := by
    refine Transition.run_invariant begun ?_ ran
    intro current turn after inside stepped
    exact (inside.step stepped).1
  have sound := sound_of_run ran
  refine ⟨?_, ?_, ?_, sound.served_of_returned⟩
  · have atMost := descends.length_le begun (fun _ _ => trivial) ran
    rw [cost_start] at atMost
    omega
  · rcases descends.exists_quiet bounded with ⟨more, final, _, finishes, quiet⟩
    exact ⟨more, final, finishes, quiet⟩
  · intro quiet
    rcases sound with ⟨count, serving⟩ | ⟨page, lost⟩
    · simp [serving.returned_of_quiet quiet, serving.noneLost]
    · simp [lost.blocked, lost.lost]

/-- Two pages at an address where `mmap` may have put them. -/
def twoPages : Region where
  base := 0x7f0000001000
  numPages := 2
  isInt := by decide
  aligned := by decide
  inside := by decide

/-- A thread touches both pages; the handler is about to take the second fault when it has yet to
count the first. -/
def bothTouched : List Turn :=
  [.toucher, .handler true, .handler true, .handler true, .toucher, .toucher] ++
    List.replicate 5 (.handler true) ++ List.replicate 2 .toucher ++
    List.replicate 1 (.handler true) ++ [.toucher, .toucher]

theorem bothTouched_are_served :
    ∃ machine, Transition.run (Machine.step twoPages patternResolver) (.start .zero ())
        bothTouched = some machine ∧ machine.toucher = .returned ∧ machine.faults = 2 ∧
      machine.pages 0 = some (.filled 0) ∧ machine.pages 1 = some (.filled 1) := by
  refine ⟨_, rfl, rfl, ?_⟩
  have served := (faults_are_served twoPages patternResolver .zero () bothTouched rfl).2.2.2 rfl
  exact ⟨served.1, served.2 0 (by decide), served.2 1 (by decide)⟩

end Threads

section Cached

theorem served_cachedResolver (cache : PageCache) (src : PageBuffer) (page : ℕ) :
    (served (cachedResolver cache) src () (page + 1)).1 = cache.resolve page :=
  rfl

/-- `duvm_uffd_run_cached`: when it returns, the region holds the cache, with zeroes for the pages
which were not put there since it was last initialised. -/
theorem region_holds_cache (region : Region) (calls : List CacheCall) (src : PageBuffer)
    (schedule : List Turn) {machine : Machine Unit}
    (ran : Transition.run
      (Machine.step region (cachedResolver (calls.foldl PageCache.after .initial)))
      (.start src ()) schedule = some machine)
    (returned : machine.toucher = .returned) (page : ℕ) (inRegion : page < region.numPages) :
    machine.pages page =
      some (((calls.foldl CacheMap.after .initial).page page).getD .zero) := by
  have refines := PageCache.refines_foldl calls PageCache.refines_initial
  rw [((Machine.sound_of_run ran).served_of_returned returned).2 page inRegion,
    served_cachedResolver, refines.resolve_eq]

/-- A page is put into the cache, another one beyond it. -/
def onePageCached : List CacheCall :=
  [.setPage 0 (.filled 9), .init 2 true, .setPage 1 (.filled 7), .setPage 2 (.filled 8)]

theorem region_holds_onePageCached :
    ∃ machine, Transition.run
        (Machine.step twoPages (cachedResolver (onePageCached.foldl PageCache.after .initial)))
        (.start .zero ()) bothTouched = some machine ∧ machine.toucher = .returned ∧
      machine.pages 0 = some .zero ∧ machine.pages 1 = some (.filled 7) := by
  refine ⟨_, rfl, rfl, ?_, ?_⟩
  · exact region_holds_cache twoPages onePageCached .zero bothTouched rfl rfl 0 (by decide)
  · exact region_holds_cache twoPages onePageCached .zero bothTouched rfl rfl 1 (by decide)

end Cached

end Duvm.Daemon.Uffd
