import PacketRing.Response

/-!
# The reader's state

The reader owns one buffer and walks it with two cursors, both offsets below the buffer size.
Bytes from `done` up to `outstanding` have been handed out and are still held by the user; bytes
from `outstanding` up to the engine's written offset are ready to be handed out; the rest belong
to the engine. The totals `received` and `released` count bytes handed out and given back since
the last clear, and `epoch` counts the clears, so that a response can be recognised as stale.

Main definitions: `Reader`, `Reader.new?`, `Reader.availableFrom`, `Reader.data`.
-/

namespace PacketRing

/-- A reader of a ring buffer, apart from the registers it drives. -/
structure Reader where
  config : Config
  buffer : Buffer
  endAddress : UInt32
  enabled : Bool := false
  /-- The offset up to which bytes have been handed out. -/
  outstanding : Nat := 0
  /-- The offset up to which bytes have been given back to the engine. -/
  done : Nat := 0
  /-- The bytes handed out since the last clear. -/
  received : Nat := 0
  /-- The bytes given back since the last clear. -/
  released : Nat := 0
  /-- The number of clears, modulo `2 ^ 32`. -/
  epoch : UInt32 := 0
deriving DecidableEq, Repr

namespace Reader

/-- A disabled reader at the start of the buffer, if the configuration accepts the buffer. -/
def new? (buffer : Buffer) (config : Config) : Except Fault Reader := do
  config.check buffer
  let endAddress ← buffer.endAddress
  pure { config, buffer, endAddress }

/-- The buffer size in bytes. -/
def size (r : Reader) : Nat := r.buffer.size

/-- The packet length in bytes. -/
def packetLength (r : Reader) : Nat := r.config.packetLength

/-- The bus address of the buffer's first byte. -/
def startAddress (r : Reader) : UInt32 := r.buffer.busAddress

/-- The bytes handed out and not yet given back. -/
def outstandingBytes (r : Reader) : Nat := r.received - r.released

/-- The bus address of an offset of the buffer. Offsets lie below the size, and the buffer ends
inside the address space, so the sum does not wrap. -/
def addressOf (r : Reader) (offset : Nat) : UInt32 := r.startAddress + offset.toUInt32

/-- The bytes from the outstanding cursor forward to a written offset, around the ring. -/
def availableFrom (r : Reader) (written : Nat) : Nat := (written + r.size - r.outstanding) % r.size

/-- Whether a response's bytes are no longer handed out by this reader: they lie in other
memory, a clear has happened since, they have been given back, or they reach past the end. -/
def isStale (r : Reader) (resp : Response) (region : Nat) : Bool :=
  resp.epoch != r.epoch || resp.position < r.released ||
    r.size < resp.offset + resp.numBytes || region != r.buffer.region

/-- The run of buffer bytes of a response that is still handed out; a response with no bytes
has the empty run. -/
def data (r : Reader) (resp : Response) : Except Fault Span :=
  match resp.region with
  | none => .ok ⟨0, 0⟩
  | some region =>
    if r.isStale resp region then .error .stale else .ok ⟨resp.offset, resp.numBytes⟩

end Reader

end PacketRing
