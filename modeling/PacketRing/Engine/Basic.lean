import PacketRing.Word
import PacketRing.Registers

/-!
# A simulated write engine

The engine writes whole packets into a ring buffer that starts at `startAddress` and ends before
`endAddress`. It advances `writtenAddress` as it writes and never passes `readAddress`, the point
up to which the reader has released the buffer. Its registers behave as the hardware's do: reads
of the status and of the written address are counted, acknowledging status flags clears them,
programming the start address also moves the written address there, and programming an address
that is not a multiple of the packet length raises that address's `Unaligned` flag.

Distances are measured in 32-bit words as the hardware does: the offset of an address is its
wrapping difference from the start taken modulo the buffer size, and the count of unreleased
bytes adds the size before it subtracts, a sum that aborts when the size is above `2 ^ 31`.

Main definitions: `Engine`, `Engine.new?`, `Engine.size`, `Engine.unreleased`, `Engine.free`,
`Engine.overwrite`, and the `Registers` instance.
-/

namespace PacketRing

/-- The registers and read counters of a simulated engine. -/
structure Engine where
  packetLength : UInt32
  enabled : Bool := false
  status : Status := {}
  mask : Status := {}
  startAddress : UInt32 := 0
  endAddress : UInt32 := 0
  writtenAddress : UInt32 := 0
  readAddress : UInt32 := 0
  /-- How often the written address has been read. -/
  writtenReads : Nat := 0
  /-- How often the status has been read. -/
  statusReads : Nat := 0
deriving DecidableEq, Repr

namespace Engine

/-- A switched-off engine with all registers zero. An engine that writes packets of no bytes
cannot be built. -/
def new? (packetLength : UInt32) : Except Abort Engine :=
  if packetLength = 0 then .error .zeroPacketLength else .ok { packetLength }

/-- The number of bytes between the start and the end address, zero if the end lies before the
start. -/
def size (e : Engine) : UInt32 := subSat e.endAddress e.startAddress

/-- The offset of an address in the buffer: its wrapping distance from the start, modulo the
size. -/
def offsetOf (e : Engine) (a : UInt32) : UInt32 := (a - e.startAddress) % e.size

/-- The bytes written and not yet released: the distance from the read offset forward to the
written offset. The size is added before the read offset is subtracted, and that sum aborts when
it leaves 32 bits. -/
def unreleased (e : Engine) : Except Abort UInt32 :=
  if e.size = 0 then .ok 0
  else (addWords? (e.offsetOf e.writtenAddress) e.size).map
    fun t => (t - e.offsetOf e.readAddress) % e.size

/-- The bytes the engine may still write. One packet is always kept free, so that a full buffer
differs from an empty one. -/
def free (e : Engine) : Except Abort UInt32 :=
  e.unreleased.map (subSat (subSat e.size e.packetLength) ·)

/-- The engine with more status flags set. -/
def raise (e : Engine) (s : Status) : Engine := { e with status := e.status ∪ s }

/-- Raises the flag when the address is not a multiple of a nonzero packet length. -/
def checkAligned (e : Engine) (a : UInt32) (f : Flag) : Engine :=
  if e.packetLength ≠ 0 ∧ a % e.packetLength ≠ 0 then e.raise (.single f) else e

/-- Moves the written address without any check. -/
def setWritten (e : Engine) (a : UInt32) : Engine := { e with writtenAddress := a }

/-- One register of the engine with a new value. -/
inductive Field where
  | enabled (on : Bool)
  | packetLength (v : UInt32)
  | status (s : Status)
  | mask (s : Status)
  | startAddress (a : UInt32)
  | endAddress (a : UInt32)
  | writtenAddress (a : UInt32)
  | readAddress (a : UInt32)
deriving DecidableEq, Repr

/-- Stores a value into one register, with none of the effects of programming it. -/
def overwrite (e : Engine) : Field → Engine
  | .enabled on => { e with enabled := on }
  | .packetLength v => { e with packetLength := v }
  | .status s => { e with status := s }
  | .mask s => { e with mask := s }
  | .startAddress a => { e with startAddress := a }
  | .endAddress a => { e with endAddress := a }
  | .writtenAddress a => { e with writtenAddress := a }
  | .readAddress a => { e with readAddress := a }

theorem size_toNat (e : Engine) :
    e.size.toNat = e.endAddress.toNat - e.startAddress.toNat := toNat_subSat _ _

end Engine

/-- Registers of a simulated engine. -/
instance : Registers Engine where
  setEnabled on e := { e with enabled := on }
  status e := (e.status, { e with statusReads := e.statusReads + 1 })
  clearStatus s e := { e with status := e.status \ s }
  setMask s e := { e with mask := s }
  setStart a e := { e.checkAligned a .startUnaligned with startAddress := a, writtenAddress := a }
  setEnd a e := { e.checkAligned a .endUnaligned with endAddress := a }
  written e := (e.writtenAddress, { e with writtenReads := e.writtenReads + 1 })
  setRead a e := { e.checkAligned a .readUnaligned with readAddress := a }

end PacketRing
