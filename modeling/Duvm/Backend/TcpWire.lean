import Duvm.Backend.Trait
import Duvm.Library.ByteStream
import Duvm.Library.LittleEndian

/-!
# The wire protocol of the TCP backend

The closures which `TcpBackend` of `duvm-backend-tcp/src/lib.rs` runs on its
stream, as programs over a connection. They have no state of their own; an I/O
error or a refusal makes them return an error.
-/

namespace Duvm.Tcp

open ByteStream (Program)

def OP_STORE : UInt8 := 1

def OP_LOAD : UInt8 := 2

def OP_FREE : UInt8 := 3

def OP_ALLOC : UInt8 := 4

def RESP_OK : UInt8 := 0

/-- `stream.write_all(..)?` -/
def writeAll {Value : Type} (bytes : List UInt8) (next : Program Unit (Outcome Value)) :
    Program Unit (Outcome Value) :=
  .write bytes fun ok => if ok then next else .done (.err .io)

/-- `stream.read_exact(..)?` -/
def readExact {Value : Type} (count : ℕ)
    (next : Vector UInt8 count → Program Unit (Outcome Value)) : Program Unit (Outcome Value) :=
  .read count fun got =>
    match got with
    | none => .done (.err .io)
    | some bytes => next bytes

/-- An opcode and the offset of a handle. -/
def header (op : UInt8) (handle : PageHandle) : List UInt8 :=
  op :: (LittleEndian.ofUInt64 handle.offset).toList

def allocPage (backendId : UInt8) : Program Unit (Outcome PageHandle) :=
  writeAll [OP_ALLOC] <|
    readExact 9 fun resp =>
      if resp.get 0 ≠ RESP_OK then .done (.err .remoteAllocFailed)
      else
        match PageHandle.new backendId (LittleEndian.toUInt64 (resp.drop 1)) with
        | some handle => .done (.ok handle)
        | none => .done .panic

def freePage (handle : PageHandle) : Program Unit (Outcome Unit) :=
  writeAll (header OP_FREE handle) <|
    readExact 1 fun resp =>
      if resp.get 0 ≠ RESP_OK then .done (.err (.remoteFreeFailed handle)) else .done (.ok ())

def storePage (handle : PageHandle) (data : PageBuffer) : Program Unit (Outcome Unit) :=
  writeAll (header OP_STORE handle) <|
    writeAll data.toList <|
      readExact 1 fun resp =>
        if resp.get 0 ≠ RESP_OK then .done (.err .remoteStoreFailed) else .done (.ok ())

def loadPage (handle : PageHandle) : Program Unit (Outcome PageBuffer) :=
  writeAll (header OP_LOAD handle) <|
    readExact 1 fun status =>
      if status.get 0 ≠ RESP_OK then .done (.err .remoteLoadFailed)
      else readExact PAGE_SIZE fun buf => .done (.ok buf)

end Duvm.Tcp
