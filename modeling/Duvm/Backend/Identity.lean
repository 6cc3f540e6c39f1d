import Duvm.Backend.Contract
import Duvm.Backend.Rdma
import Duvm.Backend.Tcp

/-!
# Backends and their identifiers

A backend is constructed with an identifier, which it never changes, and every
handle which it gives out names it in its upper eight bits. This is how the
engine gets from a handle back to the backend.
-/

namespace Duvm

universe u v

/-- A backend which keeps its identifier and puts it into its handles. -/
class IdentifiedBackend (Backend : Type u) [DuvmBackend Backend] where
  backendId : Backend → UInt8
  issued : ∀ {backend after : Backend} {handle : PageHandle},
    DuvmBackend.allocPage backend = (.ok handle, after) → handle.backendId = backendId backend
  allocPage : ∀ backend : Backend,
    backendId (DuvmBackend.allocPage backend).2 = backendId backend
  storePage : ∀ (backend : Backend) handle data,
    backendId (DuvmBackend.storePage backend handle data).2 = backendId backend
  loadPage : ∀ (backend : Backend) handle,
    backendId (DuvmBackend.loadPage backend handle).2 = backendId backend
  freePage : ∀ (backend : Backend) handle,
    backendId (DuvmBackend.freePage backend handle).2 = backendId backend

/-- The calls which can be made on a backend. -/
inductive BackendCall where
  | alloc
  | store (handle : PageHandle) (data : PageBuffer)
  | load (handle : PageHandle)
  | free (handle : PageHandle)

namespace BackendCall

/-- The backend after a call. -/
def after {Backend : Type u} [DuvmBackend Backend] (backend : Backend) : BackendCall → Backend
  | .alloc => (DuvmBackend.allocPage backend).2
  | .store handle data => (DuvmBackend.storePage backend handle data).2
  | .load handle => (DuvmBackend.loadPage backend handle).2
  | .free handle => (DuvmBackend.freePage backend handle).2

variable {Backend : Type u} [DuvmBackend Backend] [IdentifiedBackend Backend]

theorem backendId_after (backend : Backend) (call : BackendCall) :
    IdentifiedBackend.backendId (call.after backend) = IdentifiedBackend.backendId backend := by
  cases call with
  | alloc => exact IdentifiedBackend.allocPage backend
  | store handle data => exact IdentifiedBackend.storePage backend handle data
  | load handle => exact IdentifiedBackend.loadPage backend handle
  | free handle => exact IdentifiedBackend.freePage backend handle

/-- Whatever is done with a backend, its handles name it. -/
theorem backendId_of_handle {backend after : Backend} (calls : List BackendCall)
    {handle : PageHandle}
    (allocated : DuvmBackend.allocPage (calls.foldl BackendCall.after backend) =
      (.ok handle, after)) :
    handle.backendId = IdentifiedBackend.backendId backend := by
  have kept : IdentifiedBackend.backendId (calls.foldl BackendCall.after backend) =
      IdentifiedBackend.backendId backend := by
    clear allocated
    induction calls generalizing backend with
    | nil => rfl
    | cons call rest ih => exact ih.trans (backendId_after backend call)
  rw [IdentifiedBackend.issued allocated, kept]

end BackendCall

instance {codec : Lz4} : IdentifiedBackend (LocalBackend codec) where
  backendId := LocalBackend.backendId
  issued allocated := (LocalBackend.backendId_of_allocated allocated).1
  allocPage := LocalBackend.backendId_allocPage
  storePage := LocalBackend.backendId_storePage
  loadPage := LocalBackend.backendId_loadPage
  freePage := LocalBackend.backendId_freePage

namespace RdmaBackend

theorem backendId_allocPage (backend : RdmaBackend) :
    backend.allocPage.2.backendId = backend.backendId := by
  unfold allocPage
  split
  · rfl
  · simp only
    split
    · rfl
    · rfl

theorem backendId_of_allocated {backend : RdmaBackend} {handle : PageHandle}
    (allocated : backend.allocPage.1 = .ok handle) : handle.backendId = backend.backendId := by
  unfold allocPage at allocated
  split at allocated
  · cases allocated
  · simp only at allocated
    split at allocated
    · next created =>
        cases allocated
        exact PageHandle.backendId_of_new created
    · cases allocated

theorem backendId_storePage (backend : RdmaBackend) (handle : PageHandle) (data : PageBuffer) :
    (backend.storePage handle data).2.backendId = backend.backendId := by
  unfold storePage
  split
  · rfl
  · rfl

theorem backendId_loadPage (backend : RdmaBackend) (handle : PageHandle) :
    (backend.loadPage handle).2.backendId = backend.backendId := by
  unfold loadPage
  split
  · rfl
  · rfl

end RdmaBackend

instance : IdentifiedBackend RdmaBackend where
  backendId := RdmaBackend.backendId
  issued allocated := RdmaBackend.backendId_of_allocated (congrArg Prod.fst allocated)
  allocPage := RdmaBackend.backendId_allocPage
  storePage := RdmaBackend.backendId_storePage
  loadPage := RdmaBackend.backendId_loadPage
  freePage _ _ := rfl

namespace TcpLink

open Memserver (PageStore)
open Tcp (Operation allocReply)

theorem backendId_withStream {Answer : Type} (link : TcpLink) (operation : Operation)
    (reply : PageStore → Except DuvmError Answer) :
    (link.withStream operation reply).2.backend.backendId = link.backend.backendId := by
  rcases backend_withStream link operation reply with ⟨conn, same⟩
  rw [same]

/-- A handle of the backend names it, and the backend stays what it is. -/
theorem backendId_allocPage (link : TcpLink) :
    link.allocPage.2.backend.backendId = link.backend.backendId ∧
      ∀ handle, link.allocPage.1 = .ok handle → handle.backendId = link.backend.backendId := by
  have same := backendId_withStream (link.setUsed (link.backend.pagesUsed + 1)) .alloc allocReply
  unfold allocPage
  split
  · exact ⟨rfl, by simp⟩
  · revert same
    cases (link.setUsed (link.backend.pagesUsed + 1)).withStream .alloc allocReply with
    | mk result after =>
        intro same
        change after.backend.backendId = link.backend.backendId at same
        cases result with
        | error error => exact ⟨same, by simp⟩
        | ok offset =>
            simp only
            cases created : PageHandle.new after.backend.backendId offset with
            | none => exact ⟨same, by simp⟩
            | some issued =>
                refine ⟨same, ?_⟩
                rintro handle ⟨⟩
                rw [PageHandle.backendId_of_new created, same]

theorem backendId_freePage (link : TcpLink) (handle : PageHandle) :
    (link.freePage handle).2.backend.backendId = link.backend.backendId := by
  have same := backendId_withStream link (.free handle) (Tcp.freeReply · handle)
  unfold freePage
  revert same
  cases link.withStream (.free handle) (Tcp.freeReply · handle) with
  | mk result after =>
      intro same
      cases result with
      | error error => exact same
      | ok freed => exact same

instance : IdentifiedBackend TcpLink where
  backendId link := link.backend.backendId
  issued allocated := (backendId_allocPage _).2 _ (congrArg Prod.fst allocated)
  allocPage link := link.backendId_allocPage.1
  storePage link _ _ := backendId_withStream link _ _
  loadPage link _ := backendId_withStream link _ _
  freePage := backendId_freePage

end TcpLink

instance {Left : Type u} {Right : Type v} [DuvmBackend Left] [DuvmBackend Right]
    [IdentifiedBackend Left] [IdentifiedBackend Right] : IdentifiedBackend (Left ⊕ Right) where
  backendId := Sum.elim IdentifiedBackend.backendId IdentifiedBackend.backendId
  issued := by
    rintro (left | right) after handle allocated
    · have issued := congrArg Prod.fst allocated
      exact @IdentifiedBackend.issued Left _ _ left (DuvmBackend.allocPage left).2 handle
        (Prod.ext issued rfl)
    · have issued := congrArg Prod.fst allocated
      exact @IdentifiedBackend.issued Right _ _ right (DuvmBackend.allocPage right).2 handle
        (Prod.ext issued rfl)
  allocPage backend := by
    cases backend with
    | inl left => exact IdentifiedBackend.allocPage left
    | inr right => exact IdentifiedBackend.allocPage right
  storePage backend handle data := by
    cases backend with
    | inl left => exact IdentifiedBackend.storePage left handle data
    | inr right => exact IdentifiedBackend.storePage right handle data
  loadPage backend handle := by
    cases backend with
    | inl left => exact IdentifiedBackend.loadPage left handle
    | inr right => exact IdentifiedBackend.loadPage right handle
  freePage backend handle := by
    cases backend with
    | inl left => exact IdentifiedBackend.freePage left handle
    | inr right => exact IdentifiedBackend.freePage right handle

end Duvm
