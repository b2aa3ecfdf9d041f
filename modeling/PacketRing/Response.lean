import PacketRing.Buffer

/-!
# Responses

A response hands out a contiguous run of buffer bytes to the reader's user. Besides the run it
records what is needed to tell later whether the bytes are still handed out: the memory they lie
in, their position in the stream of received bytes, and the epoch of the reader, which every
clear of the buffer advances.

Main definitions: `Response`, `Response.empty`.
-/

namespace PacketRing

/-- A run of handed-out bytes with what identifies it. -/
structure Response where
  numBytes : Nat
  /-- The memory the bytes lie in; `none` for a response with no bytes. -/
  region : Option Nat
  offset : Nat
  /-- How many bytes had been received before these, since the last clear. -/
  position : Nat
  epoch : UInt32
deriving DecidableEq, Repr

namespace Response

/-- The response with no bytes. -/
def empty : Response := ⟨0, none, 0, 0, 0⟩

instance : Inhabited Response := ⟨empty⟩

/-- Whether the response holds no bytes. -/
def isEmpty (r : Response) : Bool := r.numBytes == 0

end Response

end PacketRing
