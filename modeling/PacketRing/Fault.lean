import PacketRing.Status
import PacketRing.Text.Hex

/-!
# Faults

A fault is a condition that the reader refuses to go on with: a configuration it cannot use, a
status or written address from the engine that it cannot trust, or a request it cannot serve.
Each constructor records the values that explain it, and `Fault.message` words it.

Main definitions: `Fault`, `Fault.message`, `Fault.kind`.
-/

namespace PacketRing

/-- The faults of configuration, engine and requests. -/
inductive Fault where
  /-- The packet length is zero. -/
  | zeroPacketLength
  /-- The buffer has no bytes. -/
  | emptyBuffer
  /-- The buffer size is not a whole number of packets. -/
  | sizeUnaligned (size packetLength : Nat)
  /-- The buffer's bus address is not a multiple of the packet length. -/
  | addressUnaligned (address : UInt32) (packetLength : Nat)
  /-- The buffer does not end inside the 32-bit bus address space. -/
  | addressOverflow (address size : Nat)
  /-- The engine reported error flags. -/
  | hardware (status : Status)
  /-- The engine's written address lies outside the buffer. -/
  | writtenOutOfRange (address start stop : UInt32)
  /-- The engine's written address is not on a packet boundary of the buffer. -/
  | writtenUnaligned (address : UInt32) (packetLength : Nat)
  /-- A requested length is not a whole number of packets. -/
  | unalignedLength (count packetLength : Nat)
  /-- The smallest acceptable length exceeds the largest. -/
  | invalidRange (min max : Nat)
  /-- More bytes would be released than are held. -/
  | overRelease (count outstanding : Nat)
  /-- A response whose bytes have been released or belong to another buffer. -/
  | stale
deriving DecidableEq, Repr

namespace Fault

/-- The sentence that reports the fault. -/
def message : Fault → String
  | zeroPacketLength => "packet length must be non-zero"
  | emptyBuffer => "buffer must not be empty"
  | sizeUnaligned size len =>
    "buffer size " ++ toString size ++ " is not a multiple of the packet length " ++ toString len
  | addressUnaligned address len =>
    "buffer address " ++ Hex.ofNat address.toNat ++ " is not aligned to the packet length " ++
      toString len
  | addressOverflow address size =>
    "buffer at " ++ Hex.ofNat address ++ " with " ++ toString size ++
      " bytes exceeds the 32-bit address space"
  | hardware status => "DMA engine reported error status " ++ status.describe
  | writtenOutOfRange address start stop =>
    "written address " ++ Hex.ofNat address.toNat ++ " is outside the buffer " ++
      Hex.ofNat start.toNat ++ "..=" ++ Hex.ofNat stop.toNat
  | writtenUnaligned address len =>
    "written address " ++ Hex.ofNat address.toNat ++ " is not aligned to the packet length " ++
      toString len
  | unalignedLength count len =>
    toString count ++ " bytes is not a multiple of the packet length " ++ toString len
  | invalidRange min max =>
    "minimum of " ++ toString min ++ " bytes exceeds maximum of " ++ toString max ++ " bytes"
  | overRelease count outstanding =>
    "cannot release " ++ toString count ++ " bytes, only " ++ toString outstanding ++
      " bytes are outstanding"
  | stale => "response refers to memory that has been released"

/-- The name of the fault's kind. -/
def kind : Fault → String
  | zeroPacketLength => "InvalidPacketLength"
  | emptyBuffer => "EmptyBuffer"
  | sizeUnaligned .. => "BufferSizeUnaligned"
  | addressUnaligned .. => "BufferAddressUnaligned"
  | addressOverflow .. => "BufferAddressOverflow"
  | hardware .. => "HardwareError"
  | writtenOutOfRange .. => "WrittenAddressOutOfRange"
  | writtenUnaligned .. => "WrittenAddressUnaligned"
  | unalignedLength .. => "UnalignedLength"
  | invalidRange .. => "InvalidRange"
  | overRelease .. => "ReleaseExceedsOutstanding"
  | stale => "StaleResponse"

end Fault

end PacketRing
