import Duvm.Backend.PageTable

/-!
# The compression backend

`CompressBackend` of `duvm-backend-compress/src/lib.rs`, which keeps pages
compressed by LZ4. The two functions of `lz4_flex` which it calls are a
parameter, `Lz4`, together with what the backend relies on: decompressing a
compressed block gives the input back.
-/

namespace Duvm

/-- `compress_prepend_size` and `decompress_size_prepended` of `lz4_flex`. -/
structure Lz4 where
  compressPrependSize : List UInt8 → List UInt8
  decompressSizePrepended : List UInt8 → Option (List UInt8)
  lossless : ∀ bytes, decompressSizePrepended (compressPrependSize bytes) = some bytes

structure CompressBackend (codec : Lz4) extends PageTable (List UInt8) where
  bytesStoredRaw : UInt64
  bytesStoredCompressed : UInt64

namespace CompressBackend

variable {codec : Lz4}

def new (backendId : UInt8) (maxPages : UInt64) : CompressBackend codec :=
  { toPageTable := .new backendId maxPages, bytesStoredRaw := 0, bytesStoredCompressed := 0 }

def allocPage (backend : CompressBackend codec) : Outcome PageHandle × CompressBackend codec :=
  let (result, table) := backend.toPageTable.allocPage .compressFull
  (result, { backend with toPageTable := table })

def freePage (backend : CompressBackend codec) (handle : PageHandle) :
    Except DuvmError Unit × CompressBackend codec :=
  match backend.pages.lookup handle.offset with
  | none => (.ok (), backend)
  | some data =>
      (.ok (), {
        toPageTable := backend.toPageTable.remove handle.offset
        bytesStoredRaw := backend.bytesStoredRaw - UInt64.ofNat PAGE_SIZE
        bytesStoredCompressed := backend.bytesStoredCompressed - UInt64.ofNat data.length })

def storePage (backend : CompressBackend codec) (handle : PageHandle) (data : PageBuffer) :
    Except DuvmError Unit × CompressBackend codec :=
  let compressed := codec.compressPrependSize data.toList
  (.ok (), {
    toPageTable := backend.toPageTable.insert handle.offset compressed
    bytesStoredRaw := backend.bytesStoredRaw + UInt64.ofNat PAGE_SIZE
    bytesStoredCompressed := backend.bytesStoredCompressed + UInt64.ofNat compressed.length })

def loadPage (backend : CompressBackend codec) (handle : PageHandle) :
    Except DuvmError PageBuffer × CompressBackend codec :=
  match backend.pages.lookup handle.offset with
  | none => (.error (.pageNotFound handle), backend)
  | some compressed =>
      match codec.decompressSizePrepended compressed with
      | none => (.error .decompressionFailed, backend)
      | some decompressed =>
          match PageBuffer.ofBytes decompressed with
          | none => (.error (.sizeMismatch decompressed.length), backend)
          | some page => (.ok page, backend)

/-- `shutdown`, which forgets the pages and what was counted of them. -/
def shutdown (backend : CompressBackend codec) : CompressBackend codec :=
  { backend with pages := ∅, bytesStoredRaw := 0, bytesStoredCompressed := 0 }

end CompressBackend

end Duvm
