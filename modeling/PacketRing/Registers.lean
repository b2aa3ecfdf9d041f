import PacketRing.Status

/-!
# The register interface of the write engine

The reader drives the engine through eight register accesses: it switches the engine on and off,
reads and acknowledges status flags, chooses the flags that interrupt, programs the buffer's start,
end and read addresses, and reads the address up to which the engine has written. A backend that
provides these is an instance of `Registers`. A read may change the backend (a simulated engine
counts its reads), so every access returns the backend's next state.

Main definitions: the class `Registers`, its accesses as `StateM` actions, and `RegisterCall`,
one access named as data with `RegisterCall.run`.
-/

namespace PacketRing

/-- A backend that provides the engine's registers; `β` is the backend's state. -/
class Registers (β : Type) where
  /-- Switches the engine on or off. -/
  setEnabled : Bool → β → β
  /-- Reads the status flags. -/
  status : β → Status × β
  /-- Acknowledges the given status flags. -/
  clearStatus : Status → β → β
  /-- Chooses the flags that raise an interrupt. -/
  setMask : Status → β → β
  /-- Programs the bus address of the buffer's first byte. -/
  setStart : UInt32 → β → β
  /-- Programs the bus address one past the buffer's last byte. -/
  setEnd : UInt32 → β → β
  /-- Reads the bus address up to which the engine has written. -/
  written : β → UInt32 × β
  /-- Programs the bus address up to which the reader has released the buffer. -/
  setRead : UInt32 → β → β

namespace Registers

variable {β : Type} [Registers β]

/-- Switches the engine on or off. -/
def enable (on : Bool) : StateM β Unit := modify (setEnabled on)

/-- Reads the status flags. -/
def readStatus : StateM β Status := modifyGet status

/-- Acknowledges the given status flags. -/
def acknowledge (s : Status) : StateM β Unit := modify (clearStatus s)

/-- Chooses the flags that raise an interrupt. -/
def writeMask (s : Status) : StateM β Unit := modify (setMask s)

/-- Programs the buffer's start address. -/
def writeStart (a : UInt32) : StateM β Unit := modify (setStart a)

/-- Programs the buffer's end address. -/
def writeEnd (a : UInt32) : StateM β Unit := modify (setEnd a)

/-- Reads the engine's written address. -/
def readWritten : StateM β UInt32 := modifyGet written

/-- Programs the reader's release address. -/
def writeRead (a : UInt32) : StateM β Unit := modify (setRead a)

end Registers

/-- One register access, named as data. -/
inductive RegisterCall where
  | setEnabled (on : Bool)
  | status
  | clearStatus (s : Status)
  | setMask (s : Status)
  | setStart (address : UInt32)
  | setEnd (address : UInt32)
  | written
  | setRead (address : UInt32)
deriving DecidableEq, Repr

namespace RegisterCall

/-- Performs the access; a read returns the word it read. -/
def run {β : Type} [Registers β] : RegisterCall → StateM β (Option UInt32)
  | setEnabled on => do Registers.enable on; pure none
  | status => do pure (some (← Registers.readStatus).toBits)
  | clearStatus s => do Registers.acknowledge s; pure none
  | setMask s => do Registers.writeMask s; pure none
  | setStart a => do Registers.writeStart a; pure none
  | setEnd a => do Registers.writeEnd a; pure none
  | written => do pure (some (← Registers.readWritten))
  | setRead a => do Registers.writeRead a; pure none

end RegisterCall

end PacketRing
