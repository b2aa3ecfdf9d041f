import PacketRing.Reader.Basic
import PacketRing.Registers

/-!
# Reader operations

Every operation of the reader runs against a register backend `β` and may fail with a `Fault`.
A failing operation leaves the reader as it was: the new reader is returned only on success. The
backend keeps the effects of the register accesses made before the fault, which is how the status
poll's read and acknowledgement stay visible after a hardware fault.

The checks of a receive come in a fixed order: the status poll, the two lengths, their order,
then the written address (first its range, then its alignment).

Main definitions: `RegisterM`, `Reader.poll`, `Reader.writtenOffset`, `Reader.setup`,
`Reader.disable`, `Reader.available`, `Reader.receive`, `Reader.release`, `Reader.clear`.
-/

namespace PacketRing

/-- An operation on a register backend `β` that may fail with a fault. -/
abbrev RegisterM (β : Type) := ExceptT Fault (StateM β)

namespace Reader

variable {β : Type} [Registers β]

/-- Reads the status flags and acknowledges every flag that is set; error flags are a fault, and
otherwise the result tells whether a packet has been written. -/
def poll : RegisterM β Bool := do
  let s ← (Registers.readStatus : StateM β Status)
  unless s.isEmpty do (Registers.acknowledge s : StateM β Unit)
  if s.hasErrors then throw (.hardware s.errors)
  pure s.writeDone

/-- The engine's written address as an offset of the buffer. It must lie in the buffer, its end
included, and on a packet boundary; the end address is the same place as the start. -/
def writtenOffset (r : Reader) : RegisterM β Nat := do
  let a ← (Registers.readWritten : StateM β UInt32)
  if a < r.startAddress || r.endAddress < a then
    throw (.writtenOutOfRange a r.startAddress r.endAddress)
  let offset := (a - r.startAddress).toNat
  if offset % r.packetLength ≠ 0 then throw (.writtenUnaligned a r.packetLength)
  pure (offset % r.size)

/-- Fails unless the length is a whole number of packets. -/
def checkLength (r : Reader) (n : Nat) : RegisterM β Unit :=
  if n % r.packetLength ≠ 0 then throw (.unalignedLength n r.packetLength) else pure ()

/-- Programs the buffer bounds, the release address and the interrupt mask, then switches the
engine on. -/
def setup (r : Reader) : StateM β Reader := do
  Registers.writeStart r.startAddress
  Registers.writeEnd r.endAddress
  Registers.writeRead (r.addressOf r.done)
  Registers.writeMask r.config.mask
  Registers.enable true
  pure { r with enabled := true }

/-- Switches the engine off; the bytes in the buffer stay readable. -/
def disable (r : Reader) : StateM β Reader := do
  Registers.enable false
  pure { r with enabled := false }

/-- The bytes written by the engine and not yet handed out. -/
def available (r : Reader) : RegisterM β Nat := do
  pure (r.availableFrom (← r.writtenOffset))

/-- Hands out between `least` and `most` bytes, both whole packets. The run starts at the
outstanding cursor and stops at the end of the buffer, so it may be shorter than `least` when
the data wraps; with fewer than `least` bytes available the response is empty. -/
def receive (r : Reader) (least most : Nat) : RegisterM β (Response × Reader) := do
  discard poll
  r.checkLength least
  r.checkLength most
  if most < least then throw (.invalidRange least most)
  let avail := r.availableFrom (← r.writtenOffset)
  if avail < least then return (Response.empty, r)
  let n := min (min avail most) (r.size - r.outstanding)
  if n = 0 then return (Response.empty, r)
  let resp : Response :=
    { numBytes := n, region := some r.buffer.region, offset := r.outstanding,
      position := r.received, epoch := r.epoch }
  pure (resp, { r with outstanding := (r.outstanding + n) % r.size, received := r.received + n })

/-- Gives the oldest `n` handed-out bytes back to the engine. Releasing nothing touches no
register. -/
def release (r : Reader) (n : Nat) : RegisterM β Reader := do
  r.checkLength n
  if r.outstandingBytes < n then throw (.overRelease n r.outstandingBytes)
  if n = 0 then return r
  let done := (r.done + n) % r.size
  (Registers.writeRead (r.addressOf done) : StateM β Unit)
  pure { r with done := done, released := r.released + n }

/-- Gives the whole buffer back: both cursors move to the written offset, so bytes written and
not yet received are dropped too, the totals restart and the epoch advances. -/
def clear (r : Reader) : RegisterM β Reader := do
  let written ← r.writtenOffset
  (Registers.writeRead (r.addressOf written) : StateM β Unit)
  pure
    { r with
      outstanding := written
      done := written
      received := 0
      released := 0
      epoch := r.epoch + 1 }

end Reader

end PacketRing
