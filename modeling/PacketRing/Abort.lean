import PacketRing.Fault

/-!
# Aborts

An abort ends an operation at once: an arithmetic step that leaves its range, a register access
outside the block, an engine built without a packet length, or a fault that the reader was told
to treat as fatal. Unlike a `Fault`, an abort is not a value the reader returns; the operation
stops, and whatever it changed before that point stays changed.

Main definitions: `Abort` and `Abort.message`.
-/

namespace PacketRing

/-- The reasons an operation stops. -/
inductive Abort where
  /-- A sum left the range of its width. -/
  | addOverflow
  /-- A remainder was taken with divisor zero. -/
  | remainderByZero
  /-- A register read at a byte offset outside the block. -/
  | readOutOfBounds (offset : Nat)
  /-- A register write at a byte offset outside the block. -/
  | writeOutOfBounds (offset : Nat)
  /-- An engine was built with packet length zero. -/
  | zeroPacketLength
  /-- A fault that the reader treats as fatal. -/
  | assertion (fault : Fault)
deriving DecidableEq, Repr

namespace Abort

/-- The sentence that reports the abort. -/
def message : Abort → String
  | addOverflow => "attempt to add with overflow"
  | remainderByZero => "attempt to calculate the remainder with a divisor of zero"
  | readOutOfBounds offset => "register read out of bounds: " ++ Hex.ofNat offset
  | writeOutOfBounds offset => "register write out of bounds: " ++ Hex.ofNat offset
  | zeroPacketLength => "packet length must be > 0"
  | assertion fault => "DMA ring assertion failed: " ++ fault.message

end Abort

end PacketRing
