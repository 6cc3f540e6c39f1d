import Duvm.Library.ByteStream
import Duvm.Library.LittleEndian
import Duvm.Memserver.PageStore

/-!
# The loop of the memory server

`handle_client` of `duvm-memserver/src/main.rs`, as a program over a connection
and the page store. An I/O error ends the session wherever it happens. The loop
runs as often as its fuel allows.
-/

namespace Duvm.Memserver

open ByteStream (Program)

def OP_STORE : UInt8 := 1

def OP_LOAD : UInt8 := 2

def OP_FREE : UInt8 := 3

def OP_ALLOC : UInt8 := 4

def OP_STATUS : UInt8 := 5

def RESP_OK : UInt8 := 0

def RESP_ERR : UInt8 := 1

/-- `stream.read_exact(..)?` -/
def receive (count : ℕ) (next : Vector UInt8 count → Program PageStore Unit) :
    Program PageStore Unit :=
  .read count fun got =>
    match got with
    | none => .done ()
    | some bytes => next bytes

/-- `stream.write_all(..)?` -/
def respond (bytes : List UInt8) (next : Program PageStore Unit) : Program PageStore Unit :=
  .write bytes fun ok => if ok then next else .done ()

/-- The body of the loop, after the opcode has been read. -/
def dispatch (op : UInt8) (next : Program PageStore Unit) : Program PageStore Unit :=
  if op = OP_ALLOC then
    .update PageStore.allocOffset fun
      | some offset => respond (RESP_OK :: (LittleEndian.ofUInt64 offset).toList) next
      | none => respond (RESP_ERR :: List.replicate 8 0) next
  else if op = OP_STORE then
    receive 8 fun header =>
      receive PAGE_SIZE fun data =>
        .update (fun store => store.store (LittleEndian.toUInt64 header) data) fun
          | true => respond [RESP_OK] next
          | false => respond [RESP_ERR] next
  else if op = OP_LOAD then
    receive 8 fun header =>
      .update (fun store => (store.load (LittleEndian.toUInt64 header), store)) fun
        | some data => respond [RESP_OK] (respond data.toList next)
        | none => respond [RESP_ERR] next
  else if op = OP_FREE then
    receive 8 fun header =>
      .update (fun store => store.free (LittleEndian.toUInt64 header)) fun
        | true => respond [RESP_OK] next
        | false => respond [RESP_ERR] next
  else if op = OP_STATUS then
    .update (fun store => ((store.usedPages, store.maxPages), store)) fun
      | (used, total) =>
          respond (RESP_OK :: ((LittleEndian.ofUInt64 used).toList ++
            (LittleEndian.ofUInt64 total).toList)) next
  else respond [RESP_ERR] next

def handleClient : ℕ → Program PageStore Unit
  | 0 => .done ()
  | fuel + 1 => receive 1 fun op => dispatch op[0] (handleClient fuel)

end Duvm.Memserver
